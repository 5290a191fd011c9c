import SoleKey.Plan

set_option autoImplicit false

namespace SoleKey

inductive Answer where
  | identities (found : List Identity)
  | signature (made : Signature)
  | done
  | extension (given : Extension)
  deriving DecidableEq, Repr

def KeyResult.answer : KeyResult -> Answer
  | .identities found => .identities found
  | .signature made => .signature made

abbrev Agent := Call -> Plan (Except SigningError Answer)

namespace Agent

def keyed (operation : KeyOperation) : Plan (Except SigningError Answer) :=
  .keyed operation fun outcome => ([], outcome.map KeyResult.answer)

def refuse (effects : List Effect) (problem : SigningError) : Plan (Except SigningError Answer) :=
  .done effects (.error problem)

def overStoredKey : Agent
  | .list => keyed .list
  | .sign key data flags => keyed (.sign key data flags)
  | .add _ => refuse [.debug "Refusing to add a key"] .unsupported
  | .remove _ => refuse [.debug "Refusing to remove a key"] .unsupported
  | .removeAll | .close => .done [] (.ok .done)
  | .lock _ | .unlock _ => refuse [] .unsupported
  | .extension asked =>
      refuse [.debug ("Unsupported extension requested: " ++ asked.name)] .extensionUnsupported

def fixed (answers : Call -> Except SigningError Answer) : Agent :=
  fun call => .done [.asked call] (answers call)

end Agent

end SoleKey
