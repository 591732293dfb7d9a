import CarrierSense.Experiment.Record
import CarrierSense.Proofs.Outcome

/-!
# Lines of records

A record is written as one line: whatever names the nodes and interfaces have, and whatever time of day is noted,
its text holds no line feed.
-/

namespace CarrierSense

/-- A text without line feeds. -/
def OneLine (text : String) : Prop := '\n' ∉ text.toList

/-- Whether a text is one line can be decided. -/
instance (text : String) : Decidable (OneLine text) := inferInstanceAs (Decidable ('\n' ∉ text.toList))

namespace OneLine

variable {a b : String} {texts : List String}

/-- Two texts of one line are one line when put together. -/
lemma append (ha : OneLine a) (hb : OneLine b) : OneLine (a ++ b) := by
  unfold OneLine
  rw [String.toList_append, List.mem_append, not_or]
  exact ⟨ha, hb⟩

/-- Texts of one line that are joined by a separator of one line are one line. -/
lemma intercalate {separator : String} (hs : OneLine separator) (ht : ∀ text ∈ texts, OneLine text) :
    OneLine (separator.intercalate texts) := by
  unfold OneLine at hs ⊢
  rw [String.toList_intercalate]
  induction texts with
  | nil => simp
  | cons text rest ih =>
    rw [List.forall_mem_cons] at ht
    have hfirst : '\n' ∉ text.toList := ht.1
    cases rest with
    | nil => simpa using hfirst
    | cons next rest =>
      have hrest := ih ht.2
      rw [List.map_cons] at hrest ⊢
      rw [List.map_cons, List.intercalate_cons_cons]
      simp only [List.mem_append, not_or]
      exact ⟨⟨hfirst, hs⟩, hrest⟩

/-- The digits of a number are on one line. -/
lemma nat (n : Nat) : OneLine (toString n) :=
  fun hmem => absurd (Decimal.isDigit_of_mem_toString hmem) (by decide)

end OneLine

namespace Json

end Json

end CarrierSense
