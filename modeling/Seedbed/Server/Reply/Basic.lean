import Seedbed.Bson.Kind
import Seedbed.Bson.Packed
import Seedbed.Double.Whole
import Seedbed.Server.Reply.Failures

/-!
# Accepting a reply

Every reply says whether the command was done: it holds `ok` with the value one, in a number of any type. What else a reply may
be is a fault: it does not say so, it says so in no number, or it reports a failure of the command.
-/

namespace Seedbed

/-- The integer of 64 bits that a number stands for, of whatever type the number is. -/
def Value.whole? : Value → Option Int
  | .double x => x.whole? (-9223372036854775808) 9223372036854775807
  | v => v.integer?

/-- The count that a number stands for, of whatever type the number is. -/
def Value.count? : Value → Option Nat
  | .double x => (x.whole? 0 18446744073709551615).map Int.toNat
  | v =>
    match v.integer? with
    | some (.ofNat n) => some n
    | _ => none

namespace Reply

/-- A reply of which the client can make nothing. -/
def invalid {α : Type} (reason : String) : Except ServerFault α := .error (.client (.invalidReply reason))

/-- The result of a reading of a reply, a fault of it being the server's. -/
def decoded {α : Type} : Except DecodingFault α → Except ServerFault α
  | .ok a => .ok a
  | .error fault => invalid fault.message

/-- A report of a command that failed. -/
def refused {α : Type} (reply : Document) : Except ServerFault α :=
  match readCommandRefusal reply with
  | .ok refusal => .error (.command refusal)
  | .error fault => invalid ("error deserializing command error: " ++ ofKind (ClientFault.invalidReply fault.message).message)

/-- A reply that says that the command was done. -/
def accept (reply : Document) : Except ServerFault Document :=
  match reply.get? "ok" with
  | none => invalid "missing 'ok' value in response"
  | some v =>
    match v.whole? with
    | none => invalid ("expected ok value to be a number, instead got " ++ v.inspectPacked)
    | some ok =>
      match checkClusterTime reply with
      | .error fault => .error (.client (.unreadable fault.message))
      | .ok () => if ok = 1 then .ok reply else refused reply

/-- The reply to a command from which nothing but its being done is wanted. -/
def acknowledgement (reply : Document) : Except ServerFault Unit := (accept reply).map (fun _ => ())

/-- The reply to a login, which has to hold the number of the dialogue and bytes for the client, and to say that nothing more is
to be said. That it does not say whether the command was done is passed over, and a failure is told by its message alone. -/
def login (reply : Document) : Except ConnectionFault Unit :=
  let failure (reason : String) : Except ConnectionFault Unit := .error (.login ("PLAIN failure: " ++ reason))
  match (reply.get? "ok").map Value.whole? with
  | some none => failure "invalid server response"
  | ok =>
    if (ok.getD (some 1)) ≠ some 1 then
      failure (((reply.get? "errmsg").bind Value.string?).getD "Authentication failure")
    else
      match reply.get? "conversationId", (reply.get? "done").bind Value.boolean?, reply.get? "payload" with
      | some _, some true, some (.binary 0 _) => .ok ()
      | _, _, _ => failure "invalid server response"

end Reply

end Seedbed
