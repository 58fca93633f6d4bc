import RegisterVM.Program.Reader

/-!
# Program sources

A source is where a program comes from: a name, and what each load of it gives.  A program
is loaded once at the start and once more at every restart, and the loads may differ, since
the file behind them may have changed in between.

* `Source.ofTexts`: the n-th load reads the n-th text, and the last text once they run out.
* `Source.constant`: every load gives the same.
* `Source.rest`: the source after its next load.
-/

namespace RegisterVM

/-- A name, and the result of each load. -/
structure Source where
  name : String
  /-- The result of the n-th load from now on. -/
  loads : Nat → Except LoadError Image

namespace Source

/-- What the next load gives. -/
def load (s : Source) : Except LoadError Image := s.loads 0

/-- The source after its next load. -/
def rest (s : Source) : Source := { s with loads := fun n => s.loads (n + 1) }

/-- The source whose loads are all the same. -/
def constant (name : String) (result : Except LoadError Image) : Source :=
  ⟨name, fun _ => result⟩

/-- The source whose n-th load reads the n-th text; the last text is read over and over, and
a source without texts reads the empty one. -/
def ofTexts (name : String) (texts : List String) : Source :=
  ⟨name, fun n => Image.ofText name (texts[n]?.getD (texts.getLast?.getD ""))⟩

@[simp] theorem name_rest (s : Source) : s.rest.name = s.name := rfl

@[simp] theorem load_constant (name : String) (result : Except LoadError Image) :
    (constant name result).load = result := rfl

@[simp] theorem rest_constant (name : String) (result : Except LoadError Image) :
    (constant name result).rest = constant name result := rfl

end Source

end RegisterVM
