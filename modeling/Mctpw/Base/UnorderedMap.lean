import Mathlib.Data.Finmap
import Mathlib.Data.List.Induction

set_option autoImplicit false

/- Finite maps under the operations of std::unordered_map, over Mathlib's
Finmap. Iteration order is not part of the value. -/

/-- A finite map from keys to values of one type. -/
abbrev UnorderedMap (κ β : Type) := Finmap fun _ : κ => β

namespace UnorderedMap

variable {κ β : Type} [DecidableEq κ]

/-- The value `find` points to, or `none` for `end()`. -/
def find (m : UnorderedMap κ β) (key : κ) : Option β := Finmap.lookup key m

/-- `emplace` leaves an existing entry alone. -/
def emplace (m : UnorderedMap κ β) (key : κ) (value : β) : UnorderedMap κ β :=
  match m.find key with
  | some _ => m
  | none => Finmap.insert key value m

/-- `m[key] = value` overwrites an existing entry. -/
def assign (m : UnorderedMap κ β) (key : κ) (value : β) : UnorderedMap κ β :=
  Finmap.insert key value m

def erase (m : UnorderedMap κ β) (key : κ) : UnorderedMap κ β := Finmap.erase key m

/-- `insert(first, last)` over another map leaves existing entries alone. -/
def insertAll (m other : UnorderedMap κ β) : UnorderedMap κ β := m ∪ other

/-- The keys of the map as a set. -/
def keySet (m : UnorderedMap κ β) : Set κ := fun key => (m.find key).isSome

theorem ext {m n : UnorderedMap κ β} (same : ∀ key, m.find key = n.find key) : m = n :=
  Finmap.ext_lookup same

@[simp] theorem find_empty (key : κ) : find (∅ : UnorderedMap κ β) key = none :=
  Finmap.lookup_empty key

theorem find_assign (m : UnorderedMap κ β) (key other : κ) (value : β) :
    (m.assign key value).find other = if other = key then some value else m.find other := by
  unfold assign find
  split
  · rename_i same
    rw [same]
    exact Finmap.lookup_insert m
  · rename_i different
    exact Finmap.lookup_insert_of_ne m different

theorem find_erase (m : UnorderedMap κ β) (key other : κ) :
    (m.erase key).find other = if other = key then none else m.find other := by
  unfold erase find
  split
  · rename_i same
    rw [same]
    exact Finmap.lookup_erase key m
  · rename_i different
    exact Finmap.lookup_erase_ne different

theorem find_emplace (m : UnorderedMap κ β) (key other : κ) (value : β) :
    (m.emplace key value).find other =
      if other = key then some ((m.find key).getD value) else m.find other := by
  unfold emplace
  split
  · rename_i old held
    split
    · rename_i same
      rw [same, held, Option.getD_some]
    · rfl
  · rename_i absent
    rw [absent, Option.getD_none]
    exact find_assign m key other value

theorem find_emplace_self (m : UnorderedMap κ β) (key : κ) (value : β) :
    (m.emplace key value).find key = some ((m.find key).getD value) := by
  rw [find_emplace, if_pos rfl]

theorem find_insertAll (m other : UnorderedMap κ β) (key : κ) :
    (m.insertAll other).find key = (m.find key).or (other.find key) := by
  unfold insertAll find
  cases held : Finmap.lookup key m with
  | some value =>
      rw [Finmap.lookup_union_left (Finmap.lookup_isSome.mp (by simp [held])), held, Option.some_or]
  | none =>
      rw [Finmap.lookup_union_right (Finmap.lookup_eq_none.mp held), Option.none_or]

@[simp] theorem insertAll_empty (m : UnorderedMap κ β) : m.insertAll ∅ = m := by
  apply ext
  intro key
  rw [find_insertAll, find_empty, Option.or_none]

/-- A fold of emplaces keeps what was there, else the first value for the key. -/
theorem find_foldl_emplace {ω : Type} (key : ω → κ) (value : ω → β) (entries : List ω)
    (m : UnorderedMap κ β) (wanted : κ) :
    (entries.foldl (fun m entry => m.emplace (key entry) (value entry)) m).find wanted =
      (m.find wanted).or ((entries.find? fun entry => key entry = wanted).map value) := by
  induction entries generalizing m with
  | nil => simp
  | cons entry rest ih =>
      rw [List.foldl_cons, ih, find_emplace, List.find?_cons]
      by_cases same : wanted = key entry
      · subst same
        cases m.find (key entry) <;> simp
      · have other : ¬ key entry = wanted := Ne.symm same
        simp [same, other]

theorem snoc_eq_append_cons {ω : Type} {front before after : List ω} {back middle : ω}
    (split : front ++ [back] = before ++ middle :: after) :
    (after = [] ∧ front = before ∧ back = middle) ∨
      ∃ rest, after = rest ++ [back] ∧ front = before ++ middle :: rest := by
  cases after using List.reverseRecOn with
  | nil =>
      obtain ⟨same, last⟩ := List.append_inj' split rfl
      cases last
      exact .inl ⟨rfl, same, rfl⟩
  | append_singleton rest last =>
      rw [← List.cons_append, ← List.append_assoc] at split
      obtain ⟨same, last⟩ := List.append_inj' split rfl
      cases last
      exact .inr ⟨rest, rfl, same⟩

/-- After a fold of writes a key holds what the last write about it wrote. -/
theorem find_foldl_iff {ω : Type} {write : UnorderedMap κ β → ω → UnorderedMap κ β}
    {about : ω → κ → Prop} {value : ω → β}
    (hit : ∀ m w key, about w key → (write m w).find key = some (value w))
    (miss : ∀ m w key, ¬ about w key → (write m w).find key = m.find key)
    (writes : List ω) (key : κ) (held : β) :
    (writes.foldl write ∅).find key = some held ↔
      ∃ before last after, writes = before ++ last :: after ∧ value last = held ∧
        about last key ∧ ∀ later ∈ after, ¬ about later key := by
  induction writes using List.reverseRecOn with
  | nil => simp
  | append_singleton writes w ih =>
      rw [List.foldl_append, List.foldl_cons, List.foldl_nil]
      by_cases touched : about w key
      · rw [hit _ _ _ touched]
        constructor
        · intro same
          exact ⟨writes, w, [], rfl, Option.some.inj same, touched, by simp⟩
        · rintro ⟨before, last, after, split, same, _, none⟩
          rcases snoc_eq_append_cons split with ⟨rfl, rfl, rfl⟩ | ⟨rest, rfl, rfl⟩
          · rw [same]
          · exact absurd touched (none w (by simp))
      · rw [miss _ _ _ touched, ih]
        constructor
        · rintro ⟨before, last, after, rfl, same, written, none⟩
          refine ⟨before, last, after ++ [w], by simp, same, written, ?_⟩
          intro later member
          rcases List.mem_append.mp member with member | member
          · exact none later member
          · rw [List.mem_singleton.mp member]
            exact touched
        · rintro ⟨before, last, after, split, same, written, none⟩
          rcases snoc_eq_append_cons split with ⟨rfl, rfl, rfl⟩ | ⟨rest, rfl, rfl⟩
          · exact absurd written touched
          · exact ⟨before, last, rest, rfl, same, written,
              fun later member => none later (List.mem_append_left _ member)⟩

/-- The entries of a map in some order of iteration. -/
structure Lists (m : UnorderedMap κ β) (entries : List (κ × β)) : Prop where
  nodup : entries.Nodup
  mem : ∀ key value, (key, value) ∈ entries ↔ m.find key = some value

theorem Lists.perm {m : UnorderedMap κ β} {entries other : List (κ × β)} (lists : m.Lists entries)
    (perm : entries.Perm other) : m.Lists other := by
  constructor
  · exact perm.nodup_iff.mp lists.nodup
  · intro key value
    rw [← perm.mem_iff]
    exact lists.mem key value

theorem exists_lists (m : UnorderedMap κ β) : ∃ entries, m.Lists entries := by
  induction m using Finmap.induction_on with
  | H listed =>
      refine ⟨listed.entries.map fun entry => (entry.1, entry.2), ?_, ?_⟩
      · apply List.Nodup.map _ listed.nodupKeys.nodup
        rintro ⟨key, value⟩ ⟨key', value'⟩ same
        cases same
        rfl
      · intro key value
        have found : (key, value) ∈ listed.entries.map (fun entry => (entry.1, entry.2)) ↔
            (⟨key, value⟩ : Sigma fun _ : κ => β) ∈ listed.entries := by
          simp
        rw [found]
        exact AList.mem_lookup_iff.symm

/-- Any entry can come first. -/
theorem exists_lists_cons [DecidableEq β] {m : UnorderedMap κ β} {key : κ} {value : β}
    (held : m.find key = some value) : ∃ rest, m.Lists ((key, value) :: rest) := by
  obtain ⟨entries, lists⟩ := m.exists_lists
  have member : (key, value) ∈ entries := (lists.mem key value).mpr held
  exact ⟨entries.erase (key, value), lists.perm (List.perm_cons_erase member)⟩

theorem erase_absent (m : UnorderedMap κ β) (key : κ) (absent : m.find key = none) :
    m.erase key = m := by
  apply ext
  intro other
  rw [find_erase]
  split
  · rename_i same
    rw [same, absent]
  · rfl

theorem mem_keySet (m : UnorderedMap κ β) (key : κ) :
    key ∈ m.keySet ↔ (m.find key).isSome := Iff.rfl

theorem emplace_present {m : UnorderedMap κ β} {key : κ} (held : key ∈ m.keySet) (value : β) :
    m.emplace key value = m := by
  obtain ⟨old, found⟩ := Option.isSome_iff_exists.mp held
  unfold emplace
  rw [found]

@[simp] theorem keySet_empty : keySet (∅ : UnorderedMap κ β) = ∅ := by
  ext key
  simp [mem_keySet]

theorem keySet_assign (m : UnorderedMap κ β) (key : κ) (value : β) :
    (m.assign key value).keySet = insert key m.keySet := by
  ext other
  rw [mem_keySet, find_assign, Set.mem_insert_iff, mem_keySet]
  split <;> simp_all

theorem keySet_emplace (m : UnorderedMap κ β) (key : κ) (value : β) :
    (m.emplace key value).keySet = insert key m.keySet := by
  ext other
  rw [mem_keySet, find_emplace, Set.mem_insert_iff, mem_keySet]
  split <;> simp_all

theorem keySet_erase (m : UnorderedMap κ β) (key : κ) :
    (m.erase key).keySet = m.keySet \ {key} := by
  ext other
  rw [mem_keySet, find_erase, Set.mem_sdiff, Set.mem_singleton_iff, mem_keySet]
  split <;> simp_all

end UnorderedMap
