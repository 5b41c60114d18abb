import LogLayout.Exception
import LogLayout.Keyed
import LogLayout.Severity

/- Log events as conversions see them, the records that a program logs, and the environment that
   supplies what a record leaves open. -/
namespace LogLayout

structure Environment where
  bindings : List (String × String)
  program : String
  localZone : Calendar.Zone
  deriving DecidableEq, Repr

def Environment.firstSet (env : Environment) (names : List String) : Option String :=
  names.findSome? fun name => (Keyed.get? name env.bindings).filter (· ≠ "")

def Environment.hostname (env : Environment) : Option String :=
  env.firstSet ["HOSTNAME", "COMPUTERNAME"]

def Environment.user (env : Environment) : Option String := env.firstSet ["USER", "USERNAME"]

structure Location where
  modulePath : String
  file : String
  line : Nat
  deriving DecidableEq, Repr

structure Event where
  message : String
  object : Option Datum
  /-- In the order in which they are listed; the first of a name is the one found. -/
  properties : List (String × Datum)
  timestamp : Calendar.Instant
  level : String
  logger : String
  thread : String
  exception : Option Exception
  ndc : List String
  location : Option Location
  hostname : Option String
  application : Option String

def Event.property? (e : Event) (name : String) : Option Datum := Keyed.get? name e.properties

def Event.bare (env : Environment) (message : String) (properties : List (String × Datum))
    (timestamp : Calendar.Instant) (level logger thread : String) : Event where
  message := message
  object := none
  properties := properties
  timestamp := timestamp
  level := level
  logger := logger
  thread := thread
  exception := none
  ndc := []
  location := none
  hostname := env.hostname
  application := some env.program

structure Record where
  logger : String
  severity : Severity
  message : String
  object : Option Datum
  exception : Option Exception
  timestamp : Calendar.Instant
  threadNumber : Nat
  threadName : Option String
  /-- In ascending order of the names. -/
  properties : List (String × Datum)
  ndc : List String
  hostname : Option String
  application : Option String
  location : Location

namespace Record

def withProperty (r : Record) (name : String) (value : Datum) : Record :=
  { r with properties := Keyed.insertSorted name value r.properties }

def text (r : Record) : String := r.logger ++ " [" ++ r.severity.label ++ "] " ++ r.message

def thread (r : Record) : String :=
  r.threadName.getD ("ThreadId(" ++ toString r.threadNumber ++ ")")

def knownLocation? (r : Record) : Option Location :=
  if r.location.file = "" ∧ r.location.modulePath = "" then none else some r.location

def event (env : Environment) (r : Record) : Event where
  message := r.message
  object := r.object
  properties := r.properties
  timestamp := r.timestamp
  level := r.severity.label
  logger := r.logger
  thread := r.thread
  exception := r.exception
  ndc := r.ndc
  location := r.knownLocation?
  hostname := r.hostname <|> env.hostname
  application := r.application <|> some env.program

end Record

end LogLayout
