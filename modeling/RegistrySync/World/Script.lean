import RegistrySync.World.Basic

/-!
A world that follows a script.

The script says, for each kind of call and what the call is about, how the first such call comes
out, how the second, and so on; the last outcome holds for all calls after it, and a call that the
script does not speak of succeeds. Only delays take time.
-/

namespace RegistrySync

/-- How a call comes out, and after how many milliseconds. -/
structure Outcome (α : Type) where
  delay : Nat
  result : Except Error α

def Outcome.success {α : Type} (a : α) : Outcome α := ⟨0, .ok a⟩

/-- What a call is about, by which the script tells calls apart. -/
structure Topic where
  kind : String
  subject : String
  deriving DecidableEq, Repr

def Call.topic : Call → Topic
  | .ping _ _ => ⟨"ping", ""⟩
  | .pull reference _ _ _ => ⟨"pull", reference⟩
  | .list reference => ⟨"list", reference⟩
  | .tag _ reference => ⟨"tag", reference⟩
  | .push reference _ _ _ => ⟨"push", reference⟩
  | .issueLogin region => ⟨"token", region⟩
  | .ensureRepository _ name => ⟨"ensure", name⟩

structure Script where
  /-- Outcomes of the calls that give nothing. -/
  plain : Topic → List (Outcome Unit)
  lists : String → List (Outcome (List Image))
  logins : String → List (Outcome Login)

namespace Script

structure State where
  /-- Milliseconds since the start. -/
  time : Nat
  /-- How many calls there were so far about each topic. -/
  past : List (Topic × Nat)
  deriving DecidableEq, Repr

/-- Counts one more call about a topic. -/
def count (t : Topic) : List (Topic × Nat) → List (Topic × Nat)
  | [] => [(t, 1)]
  | (u, n) :: rest => if u = t then (u, n + 1) :: rest else (u, n) :: count t rest

def start : State := ⟨0, []⟩

/-- The outcome at place `n`, or else the last one. -/
def pick {α : Type} (outcomes : List (Outcome α)) (n : Nat) : Option (Outcome α) :=
  outcomes[n]? <|> outcomes.getLast?

/-- The login of a region that the script does not speak of. -/
def defaultLogin (region : String) : Login := ⟨"AWS", "token-" ++ region⟩

def outcome (s : Script) (c : Call) (n : Nat) : Outcome c.Answer :=
  match c with
  | .ping a i => (pick (s.plain (Call.ping a i).topic) n).getD (.success ())
  | .pull r a t v => (pick (s.plain (Call.pull r a t v).topic) n).getD (.success ())
  | .tag i r => (pick (s.plain (Call.tag i r).topic) n).getD (.success ())
  | .push r t a v => (pick (s.plain (Call.push r t a v).topic) n).getD (.success ())
  | .ensureRepository i m => (pick (s.plain (Call.ensureRepository i m).topic) n).getD (.success ())
  | .list r => (pick (s.lists r) n).getD (.success [])
  | .issueLogin r => (pick (s.logins r) n).getD (.success (defaultLogin r))

/-- The world of a script; lines go nowhere. -/
def world (s : Script) : World State where
  answer c t :=
    let o := s.outcome c ((t.past.lookup c.topic).getD 0)
    (o.result, ⟨t.time + o.delay, count c.topic t.past⟩)
  print _ t := t

end Script

end RegistrySync
