import LogLayout.Arrangement.Grammar

/- What is done to a registry of conversions, step after step. A context passes it on to its own
   registry and keeps the rest. -/
namespace LogLayout

namespace Registry

inductive Update where
  | register (name : String) (conversion : Conversion)
  | merge (other : Registry)

def update (r : Registry) : Update → Registry
  | .register name conversion => r.register name conversion
  | .merge other => r.merge other

def run (r : Registry) (updates : List Update) : Registry := updates.foldl update r

end Registry

namespace Context

def update (ctx : Context) (u : Registry.Update) : Context :=
  { ctx with conversions := ctx.conversions.update u }

def run (ctx : Context) (updates : List Registry.Update) : Context := updates.foldl update ctx

end Context

end LogLayout
