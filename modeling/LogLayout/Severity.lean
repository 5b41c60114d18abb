/- Severities, from the least to the most severe, with their labels. -/
namespace LogLayout

inductive Severity where
  | trace | debug | info | warn | error | critical
  deriving DecidableEq, Repr

namespace Severity

def all : List Severity := [.trace, .debug, .info, .warn, .error, .critical]

def standard : Severity := .info

def rank : Severity → Nat
  | .trace => 0
  | .debug => 1
  | .info => 2
  | .warn => 3
  | .error => 4
  | .critical => 5

def label : Severity → String
  | .trace => "TRACE"
  | .debug => "DEBUG"
  | .info => "INFO"
  | .warn => "WARN"
  | .error => "ERROR"
  | .critical => "CRITICAL"

def symbol : Severity → String
  | .trace => "Trace"
  | .debug => "Debug"
  | .info => "Info"
  | .warn => "Warn"
  | .error => "Error"
  | .critical => "Critical"

def labels : List (String × Severity) :=
  all.map (fun s => (s.label, s)) ++ [("WARNING", .warn), ("FATAL", .critical)]

/-- Reading ignores the case of the letters A to Z only. -/
def ofText? (text : String) : Option Severity :=
  (labels.find? fun entry => entry.1.toList = text.toList.map Char.toUpper).map Prod.snd

def sorted (severities : List Severity) : List Severity :=
  severities.mergeSort fun a b => a.rank ≤ b.rank

theorem of_text_label (s : Severity) : ofText? s.label = some s := by cases s <;> decide

end Severity

end LogLayout
