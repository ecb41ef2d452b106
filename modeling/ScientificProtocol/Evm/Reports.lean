import ScientificProtocol.Evm.Emits

/-!
# What is said of a record when it ends

A contract that tells of its records tells more at their end than that they have ended: a
report carries what came of them, and nobody will say it again. `Evm.Reports` is the promise
that such reports can be relied on. What a report says fits the record from then on, since
the record is not written any more; what has ended has been reported; and it has been
reported once. Like the promises of `Evm.Emits`, this one is kept if two stretches are put
together (`Evm.Reports.trans`).
-/

namespace Evm

/-- The life of a record, as far as it can be told of: whether there is one, whether it has
ended, and what can be said of it once it has. -/
structure Life (V β : Type) where
  begun : V → Prop
  ended : V → Prop
  fits : V → β → Prop
  ended_of_fits : ∀ {v b}, fits v b → ended v

/-- **What a stretch reports**: the records before and after, and the reports in between. A
report is the number of a record, and at its end what is said of it. -/
structure Reports {V β : Type} (life : Life V β) (record : ℕ → V)
    (reports : List (ℕ × Option β)) (record' : ℕ → V) : Prop where
  begun : ∀ report ∈ reports, life.begun (record' report.1)
  begins : ∀ k, life.begun (record' k) → life.begun (record k) ∨ ∃ b, (k, b) ∈ reports
  stays : ∀ k, life.begun (record k) → life.begun (record' k)
  fits : ∀ k b, (k, some b) ∈ reports → life.fits (record' k) b
  ends : ∀ k, life.ended (record' k) → life.ended (record k) ∨ ∃ b, (k, some b) ∈ reports
  alive : ∀ report ∈ reports, ¬life.ended (record report.1)
  kept : ∀ k, life.ended (record k) → record' k = record k
  once : ∀ k b b', (k, some b) ∈ reports → (k, some b') ∈ reports → b = b'

namespace Reports

variable {V β : Type} {life : Life V β} {record record' record'' : ℕ → V}
  {reports reports' : List (ℕ × Option β)}

theorem refl (life : Life V β) (record : ℕ → V) : Reports life record [] record where
  begun := by simp
  begins _ := .inl
  stays _ := id
  fits := by simp
  ends _ := .inl
  alive := by simp
  kept _ _ := rfl
  once := by simp

/-- One record is written, and reported. -/
theorem one {k : ℕ} {b : Option β} (hother : ∀ k', k' ≠ k → record' k' = record k')
    (halive : ¬life.ended (record k)) (hbegun : life.begun (record' k))
    (hends : life.ended (record' k) → b ≠ none)
    (hfits : ∀ b', b = some b' → life.fits (record' k) b') :
    Reports life record [(k, b)] record' where
  begun report hreport := by
    obtain rfl := List.mem_singleton.mp hreport
    exact hbegun
  begins k' hk' := by
    by_cases hk : k' = k
    · exact .inr ⟨b, hk ▸ List.mem_singleton_self _⟩
    · exact .inl (hother k' hk ▸ hk')
  stays k' hk' := by
    by_cases hk : k' = k
    · rwa [hk]
    · rwa [hother k' hk]
  fits k' b' hreport := by
    obtain ⟨rfl, hb⟩ := Prod.mk.inj (List.mem_singleton.mp hreport)
    exact hfits b' hb.symm
  ends k' hk' := by
    by_cases hk : k' = k
    · subst hk
      obtain ⟨b', rfl⟩ := Option.ne_none_iff_exists'.mp (hends hk')
      exact .inr ⟨b', List.mem_singleton_self _⟩
    · exact .inl (hother k' hk ▸ hk')
  alive report hreport := by
    obtain rfl := List.mem_singleton.mp hreport
    exact halive
  kept k' hk' := by
    refine hother k' ?_
    rintro rfl
    exact halive hk'
  once k' b' b'' h h' := by
    obtain ⟨-, rfl⟩ := Prod.mk.inj (List.mem_singleton.mp h)
    obtain ⟨-, heq⟩ := Prod.mk.inj (List.mem_singleton.mp h')
    exact (Option.some.inj heq).symm

/-- One record of a mapping is written, and reported. -/
theorem set [Inhabited V] {m : Mapping ℕ V} {k : ℕ} {v : V} {b : Option β}
    (halive : ¬life.ended (m k)) (hbegun : life.begun v)
    (hends : life.ended v → b ≠ none) (hfits : ∀ b', b = some b' → life.fits v b') :
    Reports life m [(k, b)] (m.set k v) := by
  have hself : m.set k v k = v := Mapping.set_self _ _ _
  exact one (fun k' hk' => Mapping.set_of_ne _ hk' _) halive (by rwa [hself])
    (by rwa [hself]) (by rwa [hself])

/-- A record is written that goes on, and nothing is reported yet. -/
theorem untold {k : ℕ} (hother : ∀ k', k' ≠ k → record' k' = record k')
    (halive : ¬life.ended (record k)) (halive' : ¬life.ended (record' k))
    (hbegun : life.begun (record' k) ↔ life.begun (record k)) :
    Reports life record [] record' where
  begun := by simp
  begins k' hk' := by
    by_cases hk : k' = k
    · exact .inl (hk ▸ hbegun.mp (hk ▸ hk'))
    · exact .inl (hother k' hk ▸ hk')
  stays k' hk' := by
    by_cases hk : k' = k
    · exact hk ▸ hbegun.mpr (hk ▸ hk')
    · rwa [hother k' hk]
  fits := by simp
  ends k' hk' := by
    by_cases hk : k' = k
    · exact absurd (hk ▸ hk') halive'
    · exact .inl (hother k' hk ▸ hk')
  alive := by simp
  kept k' hk' := by
    refine hother k' ?_
    rintro rfl
    exact halive hk'
  once := by simp

theorem trans (h : Reports life record reports record')
    (h' : Reports life record' reports' record'') :
    Reports life record (reports ++ reports') record'' where
  begun report hreport := by
    rcases List.mem_append.mp hreport with hreport | hreport
    · exact h'.stays _ (h.begun report hreport)
    · exact h'.begun report hreport
  begins k hk := by
    rcases h'.begins k hk with hk | ⟨b, hb⟩
    · exact (h.begins k hk).imp_right fun ⟨b, hb⟩ => ⟨b, List.mem_append_left _ hb⟩
    · exact .inr ⟨b, List.mem_append_right _ hb⟩
  stays k hk := h'.stays k (h.stays k hk)
  fits k b hreport := by
    rcases List.mem_append.mp hreport with hreport | hreport
    · have hfits := h.fits k b hreport
      rwa [h'.kept k (life.ended_of_fits hfits)]
    · exact h'.fits k b hreport
  ends k hk := by
    rcases h'.ends k hk with hk | ⟨b, hb⟩
    · exact (h.ends k hk).imp_right fun ⟨b, hb⟩ => ⟨b, List.mem_append_left _ hb⟩
    · exact .inr ⟨b, List.mem_append_right _ hb⟩
  alive report hreport hended := by
    rcases List.mem_append.mp hreport with hreport | hreport
    · exact h.alive report hreport hended
    · exact h'.alive report hreport (by rwa [h.kept _ hended])
  kept k hk := by
    have heq := h.kept k hk
    rw [h'.kept k (by rwa [heq]), heq]
  once k b b' hb hb' := by
    -- After the report of an end there is no other.
    have hlast : ∀ {c : β} {c' : Option β}, (k, some c) ∈ reports → (k, c') ∉ reports' :=
      fun hc hc' => h'.alive _ hc' (life.ended_of_fits (h.fits k _ hc))
    rcases List.mem_append.mp hb with hb | hb <;> rcases List.mem_append.mp hb' with hb' | hb'
    · exact h.once k b b' hb hb'
    · exact absurd hb' (hlast hb)
    · exact absurd hb (hlast hb')
    · exact h'.once k b b' hb hb'

end Reports

end Evm
