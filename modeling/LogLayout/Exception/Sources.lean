import LogLayout.Exception

/- Exceptions captured from errors. An error is asked for its text and for the error that was its
   source. The sources are followed for as long as there is one, and each gives a link; then the
   links are tied together from the last to the first. -/
namespace LogLayout

/-- What errors answer. One whose text cannot be produced has none. -/
structure Errors (α : Type) where
  text? : α → Option String
  source? : α → Option α

namespace Exception

def ofSource (message : String) : Exception := ⟨"Error", message, [], none⟩

def tie (links : List Exception) : Option Exception :=
  links.reverse.foldl (fun inner link => some { link with cause := inner }) none

end Exception

namespace Errors

def IsSource (errors : Errors α) (source e : α) : Prop := errors.source? e = some source

/-- Whoever follows the sources of the error comes to an end. -/
def Ends (errors : Errors α) (e : α) : Prop := Acc errors.IsSource e

def spell (errors : Errors α) (e : α) : Except α String :=
  match errors.text? e with
  | some text => .ok text
  | none => .error e

def follow (errors : Errors α) (links : List Exception) (e : α) (ends : errors.Ends e) :
    Except α (List Exception) :=
  match held : errors.source? e with
  | none => .ok links
  | some source =>
    match errors.spell source with
    | .error stuck => .error stuck
    | .ok message => errors.follow (links ++ [.ofSource message]) source (Acc.inv ends held)
termination_by (⟨e, ends⟩ : { error // Acc errors.IsSource error })
decreasing_by exact held

def capture (errors : Errors α) (kind : String) (e : α) (ends : errors.Ends e) :
    Except α Exception := do
  let links ← errors.follow [] e ends
  let message ← errors.spell e
  return ⟨kind, message, [], Exception.tie links⟩

def told : Errors (List String) where
  text? := List.head?
  source?
    | _ :: source :: later => some (source :: later)
    | _ => none

theorem told_ends (texts : List String) : told.Ends texts := by
  induction texts with
  | nil => exact Acc.intro _ fun _ held => nomatch held
  | cons text later ih =>
    cases later with
    | nil => exact Acc.intro _ fun _ held => nomatch held
    | cons source later =>
      refine Acc.intro _ fun error held => ?_
      obtain rfl := Option.some.inj held
      exact ih

end Errors

end LogLayout
