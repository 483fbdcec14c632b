import CuratorKeeper.Proofs.Program.History

/-!
# What calls write

A call writes a resource when a creation or an update of it is accepted.  Calls
are counted by resource, so that it can be told what was written, by whom and
how often.
-/

namespace CuratorKeeper

def Served.wrote (served : Served) : Bool :=
  match served.request.verb with
  | .create | .update => served.answer.isOk
  | .get | .delete => false

/-- How often a resource was written by some calls. -/
def writesOf (ref : Ref) (history : List Served) : Nat :=
  history.countP fun served => served.wrote && decide (served.ref = ref)

def wrote (ref : Ref) (history : List Served) : Bool := decide (0 < writesOf ref history)

variable {ref : Ref} {refs more : List Ref} {history early late : List Served}

theorem writesOf_append (ref : Ref) (early late : List Served) :
    writesOf ref (early ++ late) = writesOf ref early + writesOf ref late :=
  List.countP_append

theorem wrote_append_left (spared : writesOf ref late = 0) :
    wrote ref (early ++ late) = wrote ref early := by
  rw [wrote, wrote, writesOf_append, spared, Nat.add_zero]

theorem wrote_append_right (spared : writesOf ref early = 0) :
    wrote ref (early ++ late) = wrote ref late := by
  rw [wrote, wrote, writesOf_append, spared, Nat.zero_add]

theorem writesOf_of_not_wrote (spared : wrote ref history = false) : writesOf ref history = 0 := by
  have none : ¬ 0 < writesOf ref history := of_decide_eq_false spared
  omega

def WroteOnly (refs : List Ref) (history : List Served) : Prop :=
  ∀ ref, ref ∉ refs → writesOf ref history = 0

def WroteNothing (history : List Served) : Prop := ∀ ref, writesOf ref history = 0

theorem WroteOnly.mono (only : WroteOnly refs history) (within : refs ⊆ more) :
    WroteOnly more history :=
  fun ref stranger => only ref fun member => stranger (within member)

theorem WroteOnly.append (first : WroteOnly refs early) (rest : WroteOnly refs late) :
    WroteOnly refs (early ++ late) := by
  intro ref stranger
  rw [writesOf_append, first ref stranger, rest ref stranger]

namespace WroteNothing

theorem nil : WroteNothing [] := fun _ => rfl

theorem singleton {served : Served} (spared : served.wrote = false) : WroteNothing [served] := by
  intro ref
  simp [writesOf, spared]

theorem only (nothing : WroteNothing history) (refs : List Ref) : WroteOnly refs history :=
  fun ref _ => nothing ref

theorem append (first : WroteNothing early) (rest : WroteNothing late) :
    WroteNothing (early ++ late) := by
  intro ref
  rw [writesOf_append, first ref, rest ref]

theorem not_wrote (nothing : WroteNothing history) (ref : Ref) : wrote ref history = false := by
  rw [wrote, nothing ref]
  rfl

theorem wrote_append (nothing : WroteNothing early) (ref : Ref) (late : List Served) :
    wrote ref (early ++ late) = wrote ref late :=
  wrote_append_right (nothing ref)

end WroteNothing
end CuratorKeeper
