import LogLayout.Datum.Basic

/- Exceptions: a kind, a message, the frames of the trace and the exception that caused it. -/
namespace LogLayout

structure Frame where
  file : String
  line : Nat
  function : String
  deriving DecidableEq, Repr

structure Exception where
  kind : String
  message : String
  frames : List Frame
  cause : Option Exception

def Frame.text (f : Frame) : String := f.file ++ ":" ++ toString f.line ++ " in " ++ f.function

def Frame.datum (f : Frame) : Datum :=
  .object "StackFrame" f.text
    [("filename", .text f.file), ("lineno", .uint f.line), ("function", .text f.function)]

namespace Exception

def text (e : Exception) : String := e.kind ++ ": " ++ e.message

def frameFields (frames : List Frame) : List (String × Datum) :=
  if frames.isEmpty then [] else [("frames", .seq (frames.map Frame.datum))]

def datum : Exception → Datum
  | ⟨kind, message, frames, none⟩ =>
    .object kind (kind ++ ": " ++ message)
      ([("type", .text kind), ("message", .text message)] ++ frameFields frames)
  | ⟨kind, message, frames, some cause⟩ =>
    .object kind (kind ++ ": " ++ message)
      ([("type", .text kind), ("message", .text message)] ++ frameFields frames ++
        [("cause", datum cause)])

/-- The causes of an error are known by their messages alone. -/
def ofCauses : List String → Option Exception
  | [] => none
  | message :: rest => some ⟨"Error", message, [], ofCauses rest⟩

def ofError (kind message : String) (causes : List String) : Exception :=
  ⟨kind, message, [], ofCauses causes⟩

def causes : Exception → List Exception
  | ⟨_, _, _, none⟩ => []
  | ⟨_, _, _, some cause⟩ => cause :: causes cause

theorem causes_of_error (kind message : String) (messages : List String) :
    (ofError kind message messages).causes.map Exception.message = messages := by
  unfold ofError
  induction messages generalizing kind message with
  | nil => rfl
  | cons first rest ih => simpa [ofCauses, causes] using ih "Error" first

end Exception

end LogLayout
