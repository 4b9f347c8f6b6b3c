import Seedbed.Bson.Kind
import Seedbed.Server.Command
import Seedbed.Server.Fault

/-!
# Sending a command again

A command that comes to a fault may be sent again. Where the server has too much to do any command is, for a number of times; where
a query fails for a reason that passes, such as that another member of the cluster takes over or that the connection breaks, it is
once. Readings are sent again only if that is wanted of readings and changes only if it is wanted of changes, and a command that the
client knows too little of only if it is wanted of both.
-/

namespace Seedbed

/-- What is sent again. -/
structure RetryPolicy where
  reads : Bool
  writes : Bool
  /-- How many times a command is sent again to a server that has too much to do. -/
  patience : Nat
  deriving DecidableEq, Repr

/-- What is sent again if nothing is said of it. -/
def RetryPolicy.usual : RetryPolicy := ⟨true, true, 2⟩

/-- What a client knows of the use of a command. -/
inductive Purpose where
  | reading | writing | unknown
  deriving DecidableEq, Repr

/-- The use of a command. -/
def Command.purpose : Command → Purpose
  | .find _ _ | .getMore _ _ => .reading
  | .drop _ _ | .insert _ _ _ | .update _ _ _ _ | .delete _ _ _ _ => .writing
  | .ping | .enableImages _ | .listCollections _ => .unknown

/-- Whether a command is a query, which has the same effect however often it is sent. -/
def Command.isQuery : Command → Bool
  | .find _ _ => true
  | _ => false

/-- Whether a command may be sent again at all. -/
def RetryPolicy.allows (policy : RetryPolicy) (command : Command) : Bool :=
  match command.purpose with
  | .reading => policy.reads
  | .writing => policy.writes
  | .unknown => policy.reads && policy.writes

/-- The codes of reasons that pass: a host or the network is out of reach for a time, the server shuts down or starts, it is not
or no longer the primary one, or it takes too long. -/
def passingCodes : List Int32 := [11600, 11602, 10107, 13435, 13436, 189, 91, 7, 6, 89, 9001, 134, 262]

/-- The labels of a refusal that comes from too much to do and is worth another attempt. -/
def overloadLabels : List String := ["SystemOverloadedError", "RetryableError"]

/-- The labels in a reply. -/
def replyLabels (reply : Document) : List String :=
  (((reply.get? "errorLabels").bind Value.array?).getD []).filterMap Value.string?

/-- Whether a fault has a reason that passes: the connection breaks, or a command is refused with a code for such a reason. -/
def ServerFault.passes : ServerFault → Bool
  | .connection (.transport _) => true
  | .command refusal => passingCodes.contains refusal.code
  | _ => false

/-- Whether a fault, `labels` being those of the reply to the command, is the refusal of a command by a server that has too much to
do. -/
def ServerFault.fromOverload (labels : List String) : ServerFault → Bool
  | .command _ => overloadLabels.all labels.contains
  | _ => false

/-- Whether a command that has come to a fault is sent again, `attempts` being how often it has been sent again before. -/
def RetryPolicy.again (policy : RetryPolicy) (command : Command) (attempts : Nat) (fault : ServerFault) (labels : List String) :
    Bool :=
  policy.allows command &&
    (if fault.fromOverload labels then attempts < policy.patience else attempts == 0 && (command.isQuery && fault.passes))

end Seedbed
