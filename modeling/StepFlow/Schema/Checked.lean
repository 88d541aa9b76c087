import StepFlow.Schema.Issue

/-! Results of checking raw data: a value, or every issue found, in the order of the fields. -/
namespace StepFlow.Schema

inductive Checked (α : Type) where
  | good (a : α)
  | bad (issues : List Issue)

namespace Checked
variable {α β : Type}

def map (f : α → β) : Checked α → Checked β
  | good a => good (f a)
  | bad issues => bad issues

def ap (f : Checked (α → β)) (a : Checked α) : Checked β :=
  match f, a with
  | good f, good a => good (f a)
  | good _, bad issues => bad issues
  | bad issues, good _ => bad issues
  | bad issues, bad more => bad (issues ++ more)

instance : Applicative Checked where
  pure := good
  map := map
  seq f a := ap f (a ())

def issue (problem : Problem) : Checked α := bad [⟨[], problem⟩]

/-- Goes on to a second check that needs the value of the first. -/
def andThen (a : Checked α) (f : α → Checked β) : Checked β :=
  match a with
  | good a => f a
  | bad issues => bad issues

/-- The check of a part, its issues placed within that part. -/
def within (p : Place) : Checked α → Checked α
  | good a => good a
  | bad issues => bad (issues.map (Issue.within p))

def elements (check : Value → Checked α) (xs : List Value) : Checked (List α) :=
  go 0 xs
where
  go (i : Nat) : List Value → Checked (List α)
    | [] => good []
    | x :: xs => (· :: ·) <$> (check x).within (.index i) <*> go (i + 1) xs

end Checked
end StepFlow.Schema
