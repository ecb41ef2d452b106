import Mathlib.Data.List.Basic

/-!
# Reading a list page by page

A reader asks for one part of a list after the other, each time from the offset it has come to, and
the list may change in between. What is ahead of the reader is what it has read or what stands at the
offset or behind it (`Concurrency.Paging.Ahead`). A page keeps it ahead, and so does a change that
pushes nothing before the offset (`Concurrency.Paging.Stays`); so when the list ends there, the
reader has read it.

Entries that are only inserted push the others back. Then what the list has been at first is read
in its order, and nothing of it is left out (`Concurrency.Paging.Covers`).
-/

namespace Concurrency.Paging

variable {α κ : Type} (key : α → κ)

/-- A reader has read an entry, or comes to it if the list stays as it is. -/
def Ahead (items : List α) (offset : ℕ) (l : List α) (k : κ) : Prop :=
  k ∈ items.map key ∨ k ∈ (l.drop offset).map key

/-- A list changes, and no entry that is there before and afterwards is pushed before the offset. -/
def Stays (items : List α) (offset : ℕ) (l l' : List α) : Prop :=
  ∀ k ∈ (l.drop offset).map key, k ∈ l'.map key → Ahead key items offset l' k

instance [DecidableEq κ] (items : List α) (offset : ℕ) (l : List α) (k : κ) :
    Decidable (Ahead key items offset l k) :=
  inferInstanceAs (Decidable (k ∈ items.map key ∨ k ∈ (l.drop offset).map key))

instance [DecidableEq κ] (items : List α) (offset : ℕ) (l l' : List α) :
    Decidable (Stays key items offset l l') :=
  inferInstanceAs (Decidable (∀ k ∈ (l.drop offset).map key, k ∈ l'.map key →
    Ahead key items offset l' k))

variable {key} {items : List α} {offset : ℕ} {l l' : List α} {k : κ}

theorem Ahead.begin (h : k ∈ l.map key) : Ahead key [] 0 l k := .inr h

theorem Ahead.mono {offset' : ℕ} (h : Ahead key items offset' l k) (hle : offset ≤ offset') :
    Ahead key items offset l k := by
  refine h.imp_right fun hahead => ?_
  obtain ⟨a, ha, hk⟩ := List.mem_map.mp hahead
  exact List.mem_map.mpr ⟨a, (List.drop_sublist_drop_left _ hle).subset ha, hk⟩

/-- **A page is read.** -/
theorem Ahead.page (h : Ahead key items offset l k) (n : ℕ) :
    Ahead key (items ++ (l.drop offset).take n) (offset + n) l k := by
  rcases h with hread | hahead
  · rw [Ahead, List.map_append]
    exact .inl (List.mem_append_left _ hread)
  · rw [← List.take_append_drop n (l.drop offset), List.map_append, List.drop_drop] at hahead
    rcases List.mem_append.mp hahead with hpage | hrest
    · rw [Ahead, List.map_append]
      exact .inl (List.mem_append_right _ hpage)
    · exact .inr hrest

/-- **The list changes.** -/
theorem Ahead.stays (h : Ahead key items offset l k) (hstays : Stays key items offset l l')
    (hk : k ∈ l'.map key) : Ahead key items offset l' k := by
  rcases h with hread | hahead
  · exact .inl hread
  · exact hstays k hahead hk

/-- **Nothing is left to be read.** -/
theorem Ahead.read (h : Ahead key items offset l k) (hend : l.length ≤ offset) :
    k ∈ items.map key := by
  rcases h with hread | hahead
  · exact hread
  · rw [List.drop_eq_nil_of_le hend] at hahead
    exact absurd hahead List.not_mem_nil

/-- A list whose entries have the same keys. -/
theorem stays_of_map_eq (h : l'.map key = l.map key) : Stays key items offset l l' := by
  intro k hk _
  rw [List.map_drop, ← h, ← List.map_drop] at hk
  exact .inr hk

/-! ### Lists that only grow -/

/-- What a list has been at first has been read, or stands at the offset or behind it, in its
order. -/
def Covers (first items : List α) (offset : ℕ) (l : List α) : Prop :=
  first.Sublist (items ++ l.drop offset)

variable {first : List α}

theorem Covers.begin (l : List α) : Covers l [] 0 l := List.Sublist.refl l

/-- **A page is read.** -/
theorem Covers.page (h : Covers first items offset l) {page : List α}
    (hpage : page <+: l.drop offset) : Covers first (items ++ page) (offset + page.length) l := by
  obtain ⟨rest, hrest⟩ := hpage
  rw [Covers, ← List.drop_drop, ← hrest, List.drop_left, List.append_assoc, hrest]
  exact h

/-- **Entries are inserted**, anywhere. -/
theorem Covers.insert (h : Covers first items offset l) (hinsert : l.Sublist l') :
    Covers first items offset l' :=
  h.trans ((hinsert.drop offset).append_left items)

/-- **Nothing is left to be read.** -/
theorem Covers.read (h : Covers first items offset l) (hend : l.length ≤ offset) :
    first.Sublist items := by
  rwa [Covers, List.drop_eq_nil_of_le hend, List.append_nil] at h

end Concurrency.Paging
