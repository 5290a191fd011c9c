import SoleKey.AcceptLoop
import SoleKey.AcceptLoop.Rehearsal
import SoleKey.AcceptLoop.Timed
import SoleKey.Agent
import SoleKey.Algorithm
import SoleKey.Binding
import SoleKey.BoundAgent
import SoleKey.Bytes
import SoleKey.Call
import SoleKey.Certificate
import SoleKey.CommandLine
import SoleKey.ConcurrentCalls
import SoleKey.Configuration
import SoleKey.Connection.Basic
import SoleKey.Connection.Frame
import SoleKey.Connection.Shared
import SoleKey.Connection.Sink
import SoleKey.Crypto.DeterministicNonce
import SoleKey.Crypto.Ecdsa
import SoleKey.Crypto.Ed25519
import SoleKey.Crypto.Modular
import SoleKey.Crypto.Rsa
import SoleKey.Crypto.Sha256
import SoleKey.Crypto.Sha512
import SoleKey.Daemon.Control
import SoleKey.Daemon.Program
import SoleKey.Effect
import SoleKey.Error
import SoleKey.FileSystem.Basic
import SoleKey.FileSystem.Operations
import SoleKey.FileSystem.Socket
import SoleKey.FormatError
import SoleKey.GuardedKey
import SoleKey.KeyOperation
import SoleKey.KeySource
import SoleKey.Lifecycle
import SoleKey.Locations
import SoleKey.LogOutput
import SoleKey.Machine
import SoleKey.Main
import SoleKey.Mpint
import SoleKey.Path
import SoleKey.Plan
import SoleKey.PrivateKey
import SoleKey.Proofs.AcceptLoop
import SoleKey.Proofs.AcceptLoop.Policy
import SoleKey.Proofs.AcceptLoop.Rehearsal
import SoleKey.Proofs.AcceptLoop.Timed
import SoleKey.Proofs.Binding
import SoleKey.Proofs.Binding.Rebinding
import SoleKey.Proofs.BoundAgent
import SoleKey.Proofs.CommandLine
import SoleKey.Proofs.Configuration
import SoleKey.Proofs.Connection.Arrival
import SoleKey.Proofs.Connection.Frame
import SoleKey.Proofs.Connection.Isolation
import SoleKey.Proofs.Connection.Likeness
import SoleKey.Proofs.Connection.Listing
import SoleKey.Proofs.Connection.Progress
import SoleKey.Proofs.Connection.Refusal
import SoleKey.Proofs.Connection.ReplySize
import SoleKey.Proofs.Connection.Secrets
import SoleKey.Proofs.Connection.Settling
import SoleKey.Proofs.Connection.Shared
import SoleKey.Proofs.Connection.Steady
import SoleKey.Proofs.Connection.Surplus
import SoleKey.Proofs.Connection.Turn
import SoleKey.Proofs.Daemon
import SoleKey.Proofs.Effect
import SoleKey.Proofs.Except
import SoleKey.Proofs.FileSystem
import SoleKey.Proofs.GuardedKey
import SoleKey.Proofs.KeyOperation
import SoleKey.Proofs.KeyOperation.SameKey
import SoleKey.Proofs.KeyOperation.SealedPart
import SoleKey.Proofs.KeyOperation.Transport
import SoleKey.Proofs.Keypair
import SoleKey.Proofs.Lifecycle.History
import SoleKey.Proofs.Lifecycle.Transition
import SoleKey.Proofs.Machine.History
import SoleKey.Proofs.Machine.Sharing
import SoleKey.Proofs.PrivateKey
import SoleKey.Proofs.PublicKey
import SoleKey.Proofs.Request
import SoleKey.Proofs.RunningAgent.Consistency
import SoleKey.Proofs.RunningAgent.Joining
import SoleKey.Proofs.Service
import SoleKey.Proofs.Session
import SoleKey.Proofs.SigningLock.Exclusion
import SoleKey.Proofs.SigningLock.History
import SoleKey.Proofs.SigningLock.SealedPart
import SoleKey.Proofs.SigningLock.Transition
import SoleKey.Proofs.SigningLock.Transport
import SoleKey.Proofs.SoftwareTpm.Sealing
import SoleKey.Proofs.SoftwareTpm.SignatureSize
import SoleKey.Proofs.SoftwareTpm.Signing
import SoleKey.Proofs.StoredKey
import SoleKey.Proofs.StoredKey.Damage
import SoleKey.Proofs.StoredKey.Grammar
import SoleKey.Proofs.StoredKey.RoundTrip
import SoleKey.Proofs.Wire
import SoleKey.PublicKey
import SoleKey.Reply
import SoleKey.Request
import SoleKey.RunningAgent
import SoleKey.Service
import SoleKey.Service.Clients
import SoleKey.Session
import SoleKey.Signature
import SoleKey.SigningLock
import SoleKey.SoftwareTpm
import SoleKey.StoredKey
import SoleKey.Summary
import SoleKey.SystemError
import SoleKey.Text.Quoted
import SoleKey.Text.Unprintable
import SoleKey.Text.Utf8
import SoleKey.Toml.Document
import SoleKey.Toml.Reader
import SoleKey.Toml.Scalar
import SoleKey.Toml.Table
import SoleKey.Tpm
import SoleKey.Wire
