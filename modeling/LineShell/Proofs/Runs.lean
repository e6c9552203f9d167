import Mathlib.Logic.Relation

/-!
# Runs

A scan, a scanner with a cursor and a console each run in small moves, one after the other, until
there is no more to do.  That a run comes to its end is shown in the same way for all three: every
move leaves less work than there was.
-/

set_option autoImplicit false
namespace LineShell

/-- **A run whose moves leave less and less work comes to its end**, if it can only stop there.  At
its end it has what every move keeps. -/
theorem exists_reaches_end {α β : Type} [WellFoundedRelation β] (work : α → β)
    {Moves : α → α → Prop} {Keeps Over : α → Prop}
    (hturn : ∀ a, Keeps a →
      (∃ a', Moves a a' ∧ Keeps a' ∧ WellFoundedRelation.rel (work a') (work a)) ∨ Over a)
    {a : α} (ha : Keeps a) :
    ∃ last, Relation.ReflTransGen Moves a last ∧ Keeps last ∧ Over last := by
  obtain ⟨a', hmove, ha', hless⟩ | hover := hturn a ha
  · obtain ⟨last, hreaches, hlast⟩ := exists_reaches_end work hturn ha'
    exact ⟨last, hreaches.head hmove, hlast⟩
  · exact ⟨a, .refl, ha, hover⟩
termination_by work a

end LineShell
