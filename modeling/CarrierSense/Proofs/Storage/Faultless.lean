import CarrierSense.Storage.Basic
import Mathlib.Data.Set.Function

/-!
# Storage without faults

Storage in which some directories can be made, and some files in them written. These files are told apart by their
paths: what is done at one of them leaves the texts of the others alone.
-/

namespace CarrierSense

/-- A storage that, from its first state on, makes some directories and writes some files in them without fault, with
the texts of these files. Nothing is asked of other paths, nor of states that it does not come to. -/
structure Faultless (σ : Type) [Storage (StateM σ)] (directories files : Set String) (first : σ) where
  /-- The text of the file at a path, if there is one. -/
  text : σ → String → Option String
  /-- The states that the storage comes to, with the directories that have been made by then. -/
  Reached : Set String → σ → Prop
  start : Reached ∅ first
  makeDirectory : ∀ {made s path}, Reached made s → path ∈ directories →
    ∃ s', (Storage.makeDirectory path : StateM σ Bool) s = (true, s') ∧ Reached (insert path made) s' ∧
      Set.EqOn (text s') (text s) files
  create : ∀ {made s directory name}, Reached made s → directory ∈ made → Path.join directory name ∈ files →
    ∃ s', (Storage.create (Path.join directory name) : StateM σ Bool) s = (true, s') ∧ Reached made s' ∧
      Set.EqOn (text s') (Function.update (text s) (Path.join directory name) (some "")) files
  append : ∀ {made s path old} (new : String), Reached made s → path ∈ files → text s path = some old →
    ∃ s', (Storage.append path new : StateM σ Unit) s = ((), s') ∧ Reached made s' ∧
      Set.EqOn (text s') (Function.update (text s) path (some (old ++ new))) files
  timestamp : ∀ {made s}, Reached made s →
    ∃ time s', (Storage.timestamp : StateM σ String) s = (time, s') ∧ Reached made s' ∧
      Set.EqOn (text s') (text s) files

/-- Files by their paths, and how often the time of day was asked for. -/
structure Shelf where
  files : String → Option String := fun _ => none
  asked : Nat := 0

/-- On a shelf there is room for every file. The time of day counts the questions. -/
instance : Storage (StateM Shelf) where
  read? path := fun s => (s.files path, s)
  holds path := fun s => ((s.files path).isSome, s)
  makeDirectory _ := fun s => (true, s)
  create path := fun s => (true, { s with files := Function.update s.files path (some "") })
  append path new := fun s =>
    ((), { s with files := Function.update s.files path ((s.files path).map (· ++ new)) })
  timestamp := fun s => (toString s.asked, { s with asked := s.asked + 1 })

/-- A shelf is without faults, whatever is asked of it. -/
def Shelf.faultless (directories files : Set String) (first : Shelf) : Faultless Shelf directories files first where
  text := Shelf.files
  Reached _ _ := True
  start := trivial
  makeDirectory _ _ := ⟨_, rfl, trivial, Set.eqOn_refl _ _⟩
  create _ _ _ := ⟨_, rfl, trivial, Set.eqOn_refl _ _⟩
  append new _ _ hold := ⟨_, rfl, trivial, by rw [hold]; exact Set.eqOn_refl _ _⟩
  timestamp _ := ⟨_, _, rfl, trivial, Set.eqOn_refl _ _⟩

/-- A path that is put together ends like its name. -/
lemma Path.toList_join (path name : String) : ∃ front, (Path.join path name).toList = front ++ name.toList := by
  unfold Path.join
  split
  · exact ⟨path.toList, String.toList_append⟩
  · exact ⟨(path ++ "/").toList, String.toList_append⟩

end CarrierSense
