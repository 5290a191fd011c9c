import SoleKey.Path

set_option autoImplicit false

namespace SoleKey

-- A variable that is set but empty counts as set.
structure Environment where
  home : String
  dataHome : Option String
  configHome : Option String
  deriving DecidableEq, Repr

namespace Environment

def appName : String := "tpm-ssh-agent"

def dataDirectory (env : Environment) : String :=
  env.dataHome.getD (Path.expandTilde env.home "~/.local/share")

def storage (env : Environment) : String :=
  Path.join env.dataDirectory appName

def defaultKeyPath (env : Environment) : String :=
  Path.join env.storage "ssh.key"

def configDirectory (env : Environment) : String :=
  Path.expandTilde env.home (env.configHome.getD "~/.config")

def defaultConfigPath (env : Environment) : String :=
  Path.join (Path.join env.configDirectory appName) (appName ++ ".toml")

def defaultListenPath : String := "~/.ssh/" ++ appName ++ ".sock"

end Environment

end SoleKey
