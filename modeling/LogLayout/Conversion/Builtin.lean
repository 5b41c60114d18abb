import LogLayout.Calendar.Pattern
import LogLayout.Conversion.Basic

/- The built-in conversions and their names. Only the date conversions and the property
   conversion look at their argument. -/
namespace LogLayout.Conversion

def always (read : Event → Option Datum) : Conversion := fun e _ => .ok (read e)

/-- Without a pattern the moment itself is the value. A pattern may turn out to be unusable only
    when it is applied. -/
def date (zone : Calendar.Zone) : Conversion := fun e option =>
  let moment : Calendar.Moment := ⟨e.timestamp, zone⟩
  match option.filter (· ≠ "") with
  | none => .ok (some (.moment moment))
  | some pattern =>
    match Calendar.readPattern pattern >>= moment.format? with
    | some text => .ok (some (.text text))
    | none => .error (.invalidDateFormat pattern)

def property : Conversion := fun e option =>
  match option.filter (· ≠ "") with
  | some name => .ok (e.property? name)
  | none => .ok (some (.map e.properties))

def builtinNames (env : Environment) : List (List String × Conversion) :=
  [(["date", "d"], date env.localZone),
   (["utcdate"], date .utc),
   (["timestamp"], always fun e => some (.int e.timestamp.millis)),
   (["level", "p"], always fun e => some (.text e.level)),
   (["logger", "c"], always fun e => some (.text e.logger)),
   (["thread", "t"], always fun e => some (.text e.thread)),
   (["message", "m"], always fun e => some (.text e.message)),
   (["messageobject"], always fun e => some (e.object.getD (.text e.message))),
   (["exception"], always fun e => e.exception.map Exception.datum),
   (["ndc", "x"], always fun e => if e.ndc.isEmpty then none else some (.stack e.ndc)),
   (["property", "P", "X", "mdc"], property),
   (["properties"], always fun e => some (.map e.properties)),
   (["appname", "appdomain", "a"], always fun e => e.application.map .text),
   (["hostname"], always fun e => e.hostname.map .text),
   (["username", "w"], always fun _ => env.user.map .text),
   (["file", "F"], always fun e => e.location.map fun l => .text l.file),
   (["line", "L"], always fun e => e.location.map fun l => .uint l.line),
   (["method", "M", "module"], always fun e => e.location.map fun l => .text l.modulePath),
   (["newline", "n"], always fun _ => some (.text "\n"))]

def builtins (env : Environment) : Registry :=
  (builtinNames env).foldl
    (fun r entry => entry.1.foldl (fun r name => r.register name entry.2) r) .empty

end LogLayout.Conversion
