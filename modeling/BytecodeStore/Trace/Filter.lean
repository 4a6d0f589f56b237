import BytecodeStore.Trace.Directive

/-! # Filters on the trace

A filter is a list of directives. Of those about an event the most specific decides, of two for the same events
the later; an event that no directive is about is hidden.
-/
namespace BytecodeStore

abbrev Filter := List Directive

namespace Filter

def ofLevel (level : Level) : Filter := [{ level := some level }]

def deciding (f : Filter) (e : Event) : Option Directive :=
  f.foldl (fun best d =>
    if !d.isAbout e then best
    else
      match best with
      | none => some d
      | some b => if b.le d then some d else some b) none

def shows (f : Filter) (e : Event) : Bool :=
  match f.deciding e with
  | none => false
  | some d => d.admits e.level

/-- Reads directives between commas, where nothing may stand as well. A text without any shows errors only. -/
def ofText? (text : String) : Option Filter :=
  match (text.toList.splitOn ',').filter (!·.isEmpty) with
  | [] => some (ofLevel .error)
  | parts => parts.mapM Directive.ofChars?

/-- The filter of a setting, or that of the verbosity where there is none or it cannot be read. -/
def choose (setting : Option String) (verbose : Nat) (quiet : Bool) : Filter :=
  (setting.bind ofText?).getD (ofLevel (.forVerbosity verbose quiet))

end Filter

end BytecodeStore
