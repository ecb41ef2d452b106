import ScientificProtocol.Js.Map

/-!
# Tallies

A script goes through a list and keeps a value for each key in a `Map`: it is made when the key
comes up first, and changed each time. In the end there is one value for each key, in the order in
which the keys came up, that has been changed by what has the key, one after the other.

A value may say more of what came first than its key. Then this is so for what can be told from the
key (`Js.map_foldl_upsert`).
-/

namespace Js

variable {α κ σ τ : Type} [DecidableEq κ]

/-- The value of a key is changed, and made before if there is none. -/
def upsert (key : κ) (made : σ) (change : σ → σ) (entries : List (κ × σ)) : List (κ × σ) :=
  if key ∈ entries.map Prod.fst then
    entries.map fun entry => if entry.1 = key then (entry.1, change entry.2) else entry
  else entries ++ [(key, change made)]

/-- What the values are looked at through is changed in the same way. -/
theorem map_upsert {f : σ → τ} {key : κ} {made : σ} {change : σ → σ} {change' : τ → τ}
    (h : ∀ value, f (change value) = change' (f value)) (entries : List (κ × σ)) :
    (upsert key made change entries).map (Prod.map id f) =
      upsert key (f made) change' (entries.map (Prod.map id f)) := by
  have hkeys : (entries.map (Prod.map id f)).map Prod.fst = entries.map Prod.fst := by
    rw [List.map_map]
    rfl
  rw [upsert, upsert, hkeys]
  split_ifs with hmem
  · rw [List.map_map, List.map_map]
    refine List.map_congr_left fun entry _ => ?_
    simp only [Function.comp_apply, Prod.map_fst, id_eq]
    split_ifs with hkey
    · exact Prod.ext rfl (h entry.2)
    · rfl
  · rw [List.map_append]
    exact congrArg (_ ++ [·]) (Prod.ext rfl (h made))

section

variable (key : α → κ) (start : κ → σ) (change : α → σ → σ)

/-- The values of the keys, each changed by what has the key. -/
def tally (values : List α) : List (κ × σ) :=
  (values.map key).eraseDups.map fun k =>
    (k, (values.filter (key · = k)).foldl (fun value a => change a value) (start k))

/-- **The last one changes the value of its key.** -/
theorem tally_append_singleton (values : List α) (a : α) :
    tally key start change (values ++ [a]) =
      upsert (key a) (start (key a)) (change a) (tally key start change values) := by
  have hkeys : (tally key start change values).map Prod.fst = (values.map key).eraseDups := by
    rw [tally, List.map_map]
    exact List.map_id _
  have hgroup : ∀ k, ((values ++ [a]).filter (key · = k)).foldl
      (fun value a => change a value) (start k) =
        if k = key a then
          change a ((values.filter (key · = k)).foldl (fun value a => change a value) (start k))
        else (values.filter (key · = k)).foldl (fun value a => change a value) (start k) := by
    intro k
    rw [List.filter_append, List.foldl_append]
    by_cases hkey : k = key a
    · simp [hkey]
    · simp [hkey, Ne.symm hkey]
  rw [upsert, hkeys, tally, List.map_append, List.eraseDups_append]
  simp only [hgroup]
  by_cases hmem : key a ∈ values.map key
  · rw [if_pos (List.mem_eraseDups.mpr hmem)]
    have hnone : [key a].removeAll (values.map key) = [] := by
      simpa [List.removeAll] using hmem
    rw [List.map_singleton, hnone, List.eraseDups_nil, List.append_nil, tally, List.map_map]
    refine List.map_congr_left fun k _ => ?_
    simp only [Function.comp_apply]
    split_ifs <;> rfl
  · rw [if_neg (mt List.mem_eraseDups.mp hmem)]
    have hone : [key a].removeAll (values.map key) = [key a] := by
      simpa [List.removeAll] using hmem
    rw [List.map_singleton, hone, List.map_append, tally]
    have hfilter : values.filter (key · = key a) = [] := by
      refine List.filter_eq_nil_iff.mpr fun value hvalue => ?_
      intro hsame
      exact hmem (List.mem_map.mpr ⟨value, hvalue, of_decide_eq_true hsame⟩)
    refine congrArg₂ (· ++ ·) (List.map_congr_left fun k hk => ?_) ?_
    · have hne : k ≠ key a := by
        rintro rfl
        exact hmem (List.mem_eraseDups.mp hk)
      rw [if_neg hne]
    · simp [hfilter, List.eraseDups_cons]

/-- **What a loop makes of a map of values**: they are seen to be what the keys make of them. -/
theorem map_foldl_upsert {made : α → τ} {change' : α → τ → τ} {f : τ → σ}
    (hmade : ∀ a, f (made a) = start (key a))
    (hchange : ∀ a value, f (change' a value) = change a (f value)) (values : List α) :
    (values.foldl (fun entries a => upsert (key a) (made a) (change' a) entries) []).map
      (Prod.map id f) = tally key start change values := by
  induction values using List.reverseRecOn with
  | nil => rfl
  | append_singleton values a ih =>
    rw [List.foldl_append, List.foldl_cons, List.foldl_nil, map_upsert (hchange a), ih, hmade,
      tally_append_singleton]

end

end Js
