import Mathlib.Data.Fintype.Basic
import Mathlib.Data.List.Basic
import ScientificProtocol.Concurrency.Processes
import ScientificProtocol.Js.Text

/-!
# Artifacts in files

`persistFilesystemArtifact` of `src/shared/persisted-artifacts.ts`: an artifact goes to a path made
of its digest, and is written there unless something is there already. It is written in place,
piece by piece, so that what is there may be the beginning of it: of a write that is still going
on, or of one that has been cut off for good.

A call that finds either returns all the same
(`ScientificProtocol.Artifacts.returned_truncated`). Calls that find a file have it whole as long as
each looks while nobody writes and, if it sees a file, sees all of it
(`ScientificProtocol.Artifacts.CarefulStep`).
-/

namespace ScientificProtocol.Artifacts

open Concurrency

abbrev Bytes : Type := List UInt8

/-- `PersistedArtifactInput`, with the bytes of its content. -/
structure PersistedArtifactInput where
  content : Bytes
  contentType : String
  extension : String
  kind : String
  deriving DecidableEq

/-- What is recorded of an artifact. -/
structure PersistedArtifactRecord where
  artifactKey : String
  byteLength : ℕ
  contentType : String
  kind : String
  sha256 : String
  storagePath : String
  deriving DecidableEq

/-- `extension.replace(/^\\./, "")`. -/
def normalizeExtension (extension : String) : String :=
  match extension.toList with
  | '.' :: rest => String.ofList rest
  | _ => extension

section

/-- `path.join`, and `path.normalize` of what it has joined, on POSIX. -/
def joinPath (segments : List String) : String :=
  let joined := ("/".intercalate (segments.filter (· ≠ ""))).toList
  let absolute := joined.head? = some '/'
  let names := (joined.splitOn '/').foldl (fun names name =>
    if name = [] ∨ name = ['.'] then names
    else if name ≠ ['.', '.'] then name :: names
    else match names with
      | [] => if absolute then [] else [name]
      | last :: rest => if last = ['.', '.'] then name :: names else rest) []
  let path := if names = [] ∧ ¬absolute then ['.'] else ['/'].intercalate names.reverse
  let path := if joined.getLast? = some '/' ∧ path ≠ [] then path ++ ['/'] else path
  String.ofList (if absolute then '/' :: path else path)

variable (sha256Hex : Bytes → String) (root : String)

/-- Where the artifact goes. -/
def PersistedArtifactInput.filePath (input : PersistedArtifactInput) : String :=
  joinPath [joinPath [root, input.kind],
    sha256Hex input.content ++ "." ++ normalizeExtension input.extension]

/-- The name of an artifact: its kind, and the beginning of its digest. -/
def artifactKey (kind sha256 : String) : String := kind ++ "-" ++ Js.slice 16 sha256

/-- The record that `persistFilesystemArtifact` returns. -/
def PersistedArtifactInput.filesystemRecord (input : PersistedArtifactInput) :
    PersistedArtifactRecord where
  artifactKey := artifactKey input.kind (sha256Hex input.content)
  byteLength := input.content.length
  contentType := input.contentType
  kind := input.kind
  sha256 := "0x" ++ sha256Hex input.content
  storagePath := input.filePath sha256Hex root

end

/-! ### Writing a file -/

/-- The files of a store. -/
abbrev Files : Type := String → Option Bytes

/-- Writing a piece at a position of a file, with zeros where the file has ended before. -/
def writeAt (file : Bytes) (position : ℕ) (piece : Bytes) : Bytes :=
  file.take position ++ List.replicate (position - file.length) 0 ++ piece ++
    file.drop (position + piece.length)

/-- The next piece of a file that has the beginning of some content. -/
theorem writeAt_take (content : Bytes) {position : ℕ} (h : position ≤ content.length) (n : ℕ) :
    writeAt (content.take position) position ((content.drop position).take n) =
      content.take (position + n) := by
  have hlength : (content.take position).length = position := List.length_take_of_le h
  have hdrop : (content.take position).drop (position + ((content.drop position).take n).length) =
      [] := List.drop_eq_nil_of_le (by omega)
  have hzeros : position - (content.take position).length = 0 := by omega
  rw [writeAt, hdrop, hzeros, List.replicate_zero, List.append_nil, List.append_nil,
    List.take_of_length_le (Nat.le_of_eq hlength), ← List.take_add]

/-- Where a call of `persistFilesystemArtifact` is, once it has the digest and the directory. -/
inductive FilesystemCall where
  | idle
  /-- It is about to look whether there is a file. -/
  | checking (input : PersistedArtifactInput)
  /-- There is one. -/
  | found (input : PersistedArtifactInput)
  /-- There was none. -/
  | opening (input : PersistedArtifactInput)
  | writing (input : PersistedArtifactInput) (position : ℕ)
  | returned (input : PersistedArtifactInput)
  | crashed
  deriving DecidableEq

inductive FilesystemAction where
  | persist (input : PersistedArtifactInput)
  /-- The next operation of a call, with the number of bytes it writes if it writes. -/
  | next (bytes : ℕ)
  /-- The call comes to nothing, wherever it is. -/
  | crash

section

variable (sha256Hex : Bytes → String) (root : String)

/-- The next operation of a call. Opening a file to write it makes it empty. -/
def FilesystemCall.next (bytes : ℕ) (files : Files) :
    FilesystemCall → Option (Files × FilesystemCall)
  | .checking input =>
    if (files (input.filePath sha256Hex root)).isSome then some (files, .found input)
    else some (files, .opening input)
  | .found input => some (files, .returned input)
  | .opening input =>
    some (Function.update files (input.filePath sha256Hex root) (some []), .writing input 0)
  | .writing input position =>
    if position < input.content.length then
      let piece := (input.content.drop position).take (max 1 bytes)
      some (Function.update files (input.filePath sha256Hex root)
        ((files (input.filePath sha256Hex root)).map fun file => writeAt file position piece),
        .writing input (position + piece.length))
    else some (files, .returned input)
  | _ => none

def FilesystemAction.act (a : FilesystemAction) (files : Files) (p : FilesystemCall) :
    Option (Files × FilesystemCall) :=
  match a with
  | .persist input => match p with
    | .idle | .returned _ | .crashed => some (files, .checking input)
    | _ => none
  | .next bytes => p.next sha256Hex root bytes files
  | .crash => some (files, .crashed)

/-- **Any number of calls** on one root, which is empty at first. -/
def filesystemCalls : Processes Files FilesystemCall FilesystemAction Empty where
  genesis files := ∀ path, files path = none
  idle := .idle
  act := FilesystemAction.act sha256Hex root
  env b := b.elim

/-! ### What a call must see -/

/-- The path that a call is going to write, or is writing. -/
def FilesystemCall.writesTo : FilesystemCall → Option String
  | .opening input | .writing input _ => some (input.filePath sha256Hex root)
  | _ => none

/-- A call that is about to look for its file will see all of it or nothing, and nobody else is
going to write it. -/
def FilesystemCall.Undisturbed {ι : Type} (c : Config ι Files FilesystemCall) (i : ι) :
    FilesystemCall → Prop
  | .checking input =>
    (c.shared (input.filePath sha256Hex root) = none ∨
      c.shared (input.filePath sha256Hex root) = some input.content) ∧
    ∀ j, j ≠ i → (c.process j).writesTo sha256Hex root ≠ some (input.filePath sha256Hex root)
  | _ => True

def CarefulStep {ι : Type} (e : Event ι Files FilesystemCall FilesystemAction Empty) : Prop :=
  match e.label with
  | .act i (.next _) => (e.before.process i).Undisturbed sha256Hex root e.before i
  | _ => True

instance {ι : Type} [Fintype ι] [DecidableEq ι] (c : Config ι Files FilesystemCall) (i : ι)
    (p : FilesystemCall) : Decidable (p.Undisturbed sha256Hex root c i) :=
  match p with
  | .checking _ => inferInstanceAs (Decidable ((_ ∨ _) ∧ ∀ j, j ≠ i → _ ≠ _))
  | .idle | .found _ | .opening _ | .writing .. | .returned _ | .crashed =>
    inferInstanceAs (Decidable True)

instance {ι : Type} [Fintype ι] [DecidableEq ι]
    (e : Event ι Files FilesystemCall FilesystemAction Empty) :
    Decidable (CarefulStep sha256Hex root e) :=
  match e with
  | ⟨before, .act i (.next _), _⟩ =>
    inferInstanceAs (Decidable ((before.process i).Undisturbed sha256Hex root before i))
  | ⟨_, .act _ (.persist _), _⟩ | ⟨_, .act _ .crash, _⟩ | ⟨_, .env _, _⟩ =>
    inferInstanceAs (Decidable True)

/-- **What a call can rely on.** From the moment it has found its file, or has written all of it,
the file is whole and nobody writes it; while it writes it, what is there is as much as it has
written, and nobody else writes it. -/
def Sound {ι : Type} (c : Config ι Files FilesystemCall) (i : ι) : Prop :=
  match c.process i with
  | .found input | .returned input =>
    c.shared (input.filePath sha256Hex root) = some input.content ∧
    ∀ j, (c.process j).writesTo sha256Hex root ≠ some (input.filePath sha256Hex root)
  | .opening input =>
    c.shared (input.filePath sha256Hex root) = none ∧
    ∀ j, j ≠ i → (c.process j).writesTo sha256Hex root ≠ some (input.filePath sha256Hex root)
  | .writing input position =>
    position ≤ input.content.length ∧
    c.shared (input.filePath sha256Hex root) = some (input.content.take position) ∧
    ∀ j, j ≠ i → (c.process j).writesTo sha256Hex root ≠ some (input.filePath sha256Hex root)
  | _ => True

end

section

variable {sha256Hex : Bytes → String} {root : String} {a : FilesystemAction} {files files' : Files}
  {p p' : FilesystemCall}

/-- A call changes no file but the one that it is writing. -/
theorem act_files (h : a.act sha256Hex root files p = some (files', p')) {path : String}
    (hpath : p.writesTo sha256Hex root ≠ some path) : files' path = files path := by
  cases a with
  | persist input =>
    cases p with
    | idle | returned | crashed =>
      obtain ⟨rfl, -⟩ := Prod.mk.inj (Option.some.inj h)
      rfl
    | checking | found | opening | writing => cases h
  | crash =>
    obtain ⟨rfl, -⟩ := Prod.mk.inj (Option.some.inj h)
    rfl
  | next bytes =>
    simp only [FilesystemAction.act] at h
    cases p with
    | idle | returned | crashed => cases h
    | checking input =>
      simp only [FilesystemCall.next] at h
      split at h
      all_goals
        obtain ⟨rfl, -⟩ := Prod.mk.inj (Option.some.inj h)
        rfl
    | found input =>
      obtain ⟨rfl, -⟩ := Prod.mk.inj (Option.some.inj h)
      rfl
    | opening input =>
      obtain ⟨rfl, -⟩ := Prod.mk.inj (Option.some.inj h)
      exact Function.update_of_ne (fun heq => hpath (congrArg some heq.symm)) _ _
    | writing input position =>
      simp only [FilesystemCall.next] at h
      split at h
      all_goals obtain ⟨rfl, -⟩ := Prod.mk.inj (Option.some.inj h)
      · exact Function.update_of_ne (fun heq => hpath (congrArg some heq.symm)) _ _
      · rfl

/-- A call that is going to write a file was going to, or has just seen that there is none. -/
theorem act_writesTo (h : a.act sha256Hex root files p = some (files', p')) {path : String}
    (hpath : p'.writesTo sha256Hex root = some path) :
    p.writesTo sha256Hex root = some path ∨
      ∃ bytes input, a = .next bytes ∧ p = .checking input ∧
        input.filePath sha256Hex root = path ∧ files path = none := by
  cases a with
  | persist input =>
    cases p with
    | idle | returned | crashed =>
      obtain ⟨-, rfl⟩ := Prod.mk.inj (Option.some.inj h)
      cases hpath
    | checking | found | opening | writing => cases h
  | crash =>
    obtain ⟨-, rfl⟩ := Prod.mk.inj (Option.some.inj h)
    cases hpath
  | next bytes =>
    simp only [FilesystemAction.act] at h
    cases p with
    | idle | returned | crashed => cases h
    | checking input =>
      simp only [FilesystemCall.next] at h
      split at h
      next =>
        obtain ⟨-, rfl⟩ := Prod.mk.inj (Option.some.inj h)
        cases hpath
      next hnone =>
        obtain ⟨-, rfl⟩ := Prod.mk.inj (Option.some.inj h)
        obtain rfl := Option.some.inj hpath
        exact Or.inr ⟨bytes, input, rfl, rfl, rfl, Option.not_isSome_iff_eq_none.mp hnone⟩
    | found input =>
      obtain ⟨-, rfl⟩ := Prod.mk.inj (Option.some.inj h)
      cases hpath
    | opening input =>
      obtain ⟨-, rfl⟩ := Prod.mk.inj (Option.some.inj h)
      exact Or.inl hpath
    | writing input position =>
      simp only [FilesystemCall.next] at h
      split at h
      all_goals obtain ⟨-, rfl⟩ := Prod.mk.inj (Option.some.inj h)
      · exact Or.inl hpath
      · cases hpath

end

/-! ### Every history -/

section

variable {sha256Hex : Bytes → String} {root : String} {ι : Type} [DecidableEq ι]
  {c : Config ι Files FilesystemCall} {i j : ι} {a : FilesystemAction} {files : Files}
  {p : FilesystemCall}

/-- Others leave a call what it relies on. -/
theorem Sound.other (h : Sound sha256Hex root c i) (hij : i ≠ j)
    (hact : a.act sha256Hex root c.shared (c.process j) = some (files, p))
    (hcareful : CarefulStep sha256Hex root
      ⟨c, .act j a, ⟨files, Function.update c.process j p⟩⟩) :
    Sound sha256Hex root ⟨files, Function.update c.process j p⟩ i := by
  have hsame : Function.update c.process j p i = c.process i := Function.update_of_ne hij _ _
  -- Nobody starts to write a file that is there, or that somebody else is going to write.
  have hstart : ∀ path, (c.process j).writesTo sha256Hex root ≠ some path →
      (c.shared path ≠ none ∨ (c.process i).writesTo sha256Hex root = some path) →
      p.writesTo sha256Hex root ≠ some path := by
    intro path hpath hbusy hstarts
    obtain hbefore | ⟨bytes, input, rfl, hchecking, rfl, hnone⟩ := act_writesTo hact hstarts
    · exact hpath hbefore
    · simp only [CarefulStep, FilesystemCall.Undisturbed, hchecking] at hcareful
      obtain hthere | hwrites := hbusy
      · exact hthere hnone
      · exact hcareful.2 i hij hwrites
  have hothers : ∀ path, (∀ k, k ≠ i → (c.process k).writesTo sha256Hex root ≠ some path) →
      p.writesTo sha256Hex root ≠ some path → ∀ k, k ≠ i →
      (Function.update c.process j p k).writesTo sha256Hex root ≠ some path := by
    intro path hbefore hp k hk
    by_cases hkj : k = j
    · rw [hkj, Function.update_self]
      exact hp
    · rw [Function.update_of_ne hkj]
      exact hbefore k hk
  simp only [Sound, hsame] at h ⊢
  cases hi : c.process i with
  | idle | checking | crashed => trivial
  | found input | returned input =>
    simp only [hi] at h
    have hj := h.2 j
    refine ⟨(act_files hact hj).trans h.1, fun k => ?_⟩
    by_cases hk : k = i
    · rw [hk, hsame, hi]
      exact (Option.some_ne_none _).symm
    · refine hothers _ (fun k _ => h.2 k) (hstart _ hj (Or.inl ?_)) k hk
      rw [h.1]
      exact Option.some_ne_none _
  | opening input =>
    simp only [hi] at h
    have hj := h.2 j hij.symm
    exact ⟨(act_files hact hj).trans h.1, hothers _ h.2 (hstart _ hj (Or.inr (hi ▸ rfl)))⟩
  | writing input position =>
    simp only [hi] at h
    have hj := h.2.2 j hij.symm
    exact ⟨h.1, (act_files hact hj).trans h.2.1,
      hothers _ h.2.2 (hstart _ hj (Or.inr (hi ▸ rfl)))⟩

/-- A call keeps to what it relies on. -/
theorem Sound.own (h : Sound sha256Hex root c j)
    (hact : a.act sha256Hex root c.shared (c.process j) = some (files, p))
    (hcareful : CarefulStep sha256Hex root
      ⟨c, .act j a, ⟨files, Function.update c.process j p⟩⟩) :
    Sound sha256Hex root ⟨files, Function.update c.process j p⟩ j := by
  have hself : Function.update c.process j p j = p := Function.update_self _ _ _
  have hothers : ∀ {path}, (∀ k, k ≠ j → (c.process k).writesTo sha256Hex root ≠ some path) →
      ∀ k, k ≠ j → (Function.update c.process j p k).writesTo sha256Hex root ≠ some path := by
    intro path hbefore k hk
    rw [Function.update_of_ne hk]
    exact hbefore k hk
  have hnobody : ∀ {path}, (∀ k, k ≠ j → (c.process k).writesTo sha256Hex root ≠ some path) →
      p.writesTo sha256Hex root = none →
      ∀ k, (Function.update c.process j p k).writesTo sha256Hex root ≠ some path := by
    intro path hbefore hnone k
    by_cases hk : k = j
    · rw [hk, hself, hnone]
      exact (Option.some_ne_none _).symm
    · exact hothers hbefore k hk
  cases a with
  | persist input =>
    cases hj : c.process j with
    | idle | returned | crashed =>
      simp only [FilesystemAction.act, hj] at hact
      obtain ⟨rfl, rfl⟩ := Prod.mk.inj (Option.some.inj hact)
      simp only [Sound, hself]
    | checking | found | opening | writing =>
      simp only [FilesystemAction.act, hj] at hact
      cases hact
  | crash =>
    obtain ⟨rfl, rfl⟩ := Prod.mk.inj (Option.some.inj hact)
    simp only [Sound, hself]
  | next bytes =>
    simp only [FilesystemAction.act] at hact
    simp only [Sound, hself]
    cases hj : c.process j with
    | idle | returned | crashed =>
      rw [hj] at hact
      cases hact
    | checking input =>
      simp only [CarefulStep, FilesystemCall.Undisturbed, hj] at hcareful
      simp only [FilesystemCall.next, hj] at hact
      split at hact
      next hsome =>
        obtain ⟨rfl, rfl⟩ := Prod.mk.inj (Option.some.inj hact)
        obtain hnone | hwhole := hcareful.1
        · rw [hnone] at hsome
          cases hsome
        · exact ⟨hwhole, hnobody hcareful.2 rfl⟩
      next hnone =>
        obtain ⟨rfl, rfl⟩ := Prod.mk.inj (Option.some.inj hact)
        exact ⟨Option.not_isSome_iff_eq_none.mp hnone, hothers hcareful.2⟩
    | found input =>
      simp only [FilesystemCall.next, hj] at hact
      obtain ⟨rfl, rfl⟩ := Prod.mk.inj (Option.some.inj hact)
      simp only [Sound, hj] at h
      exact ⟨h.1, hnobody (fun k _ => h.2 k) rfl⟩
    | opening input =>
      simp only [FilesystemCall.next, hj] at hact
      obtain ⟨rfl, rfl⟩ := Prod.mk.inj (Option.some.inj hact)
      simp only [Sound, hj] at h
      refine ⟨Nat.zero_le _, ?_, hothers h.2⟩
      rw [Function.update_self, List.take_zero]
    | writing input position =>
      simp only [Sound, hj] at h
      obtain ⟨hle, hfile, halone⟩ := h
      simp only [FilesystemCall.next, hj] at hact
      split at hact
      next hlt =>
        obtain ⟨rfl, rfl⟩ := Prod.mk.inj (Option.some.inj hact)
        have hpiece : ((input.content.drop position).take (max 1 bytes)).length =
            min (max 1 bytes) (input.content.length - position) := by
          rw [List.length_take, List.length_drop]
        refine ⟨by omega, ?_, hothers halone⟩
        rw [Function.update_self, hfile, Option.map_some, writeAt_take _ hle, hpiece]
        refine congrArg some ?_
        -- A piece ends where its bytes do, or where the content does.
        obtain hmin | hmin := Nat.le_total (max 1 bytes) (input.content.length - position)
        · rw [Nat.min_eq_left hmin]
        · rw [Nat.min_eq_right hmin, List.take_of_length_le (by omega),
            List.take_of_length_le (by omega)]
      next hend =>
        obtain ⟨rfl, rfl⟩ := Prod.mk.inj (Option.some.inj hact)
        refine ⟨?_, hnobody halone rfl⟩
        rw [hfile, List.take_of_length_le (by omega)]

/-- **In a careful history every call relies on its file.** -/
theorem sound_of_run {tr : List (Event ι Files FilesystemCall FilesystemAction Empty)}
    (h : (filesystemCalls sha256Hex root).Run tr c)
    (hcareful : ∀ e ∈ tr, CarefulStep sha256Hex root e) (i : ι) : Sound sha256Hex root c i := by
  revert hcareful i
  refine h.history (Q := fun tr c => (∀ e ∈ tr, CarefulStep sha256Hex root e) →
    ∀ i, Sound sha256Hex root c i) ?_ ?_
  · intro files _ _ i
    trivial
  · intro tr c l c' _ ih hstep hcareful i
    have ih := ih fun e he => hcareful e (List.mem_append_left _ he)
    have hlast := hcareful _ (List.mem_append_right tr (List.mem_singleton_self _))
    cases hstep with
    | env henv => exact Empty.elim (by assumption)
    | @act j a files p hact =>
      by_cases hij : i = j
      · exact hij ▸ (ih j).own hact hlast
      · exact (ih i).other hij hact hlast

end

/-- **What a call returns is stored**, in a history whose calls see their files whole or not at
all, and undisturbed. -/
theorem returned_whole (sha256Hex : Bytes → String) (root : String) {ι : Type} [DecidableEq ι]
    {tr : List (Event ι Files FilesystemCall FilesystemAction Empty)}
    {c : Config ι Files FilesystemCall} (h : (filesystemCalls sha256Hex root).Run tr c)
    (hcareful : ∀ e ∈ tr, CarefulStep sha256Hex root e) {i : ι} {input : PersistedArtifactInput}
    (hreturned : c.process i = .returned input) :
    ∃ file, c.shared (input.filesystemRecord sha256Hex root).storagePath = some file ∧
      file = input.content ∧
      "0x" ++ sha256Hex file = (input.filesystemRecord sha256Hex root).sha256 := by
  have hsound := sound_of_run h hcareful i
  simp only [Sound, hreturned] at hsound
  exact ⟨input.content, hsound.1, rfl, rfl⟩

/-! ### Histories -/

/-- A stand-in for the digest, for histories. -/
def sizeDigest (bytes : Bytes) : String := toString bytes.length

/-- The history some actions of two callers make. -/
def playFiles (moves : List (Bool × FilesystemAction)) :
    Option (List (Event Bool Files FilesystemCall FilesystemAction Empty) ×
      Config Bool Files FilesystemCall) :=
  (filesystemCalls sizeDigest "store").play moves ⟨fun _ => none, fun _ => .idle⟩

theorem run_playFiles {moves : List (Bool × FilesystemAction)} (h : (playFiles moves).isSome) :
    (filesystemCalls sizeDigest "store").Run ((playFiles moves).get h).1
      ((playFiles moves).get h).2 :=
  Processes.run_play (M := filesystemCalls sizeDigest "store") (s := fun _ => none)
    (fun _ => rfl) h

/-- An artifact of three bytes. -/
def note : PersistedArtifactInput where
  content := [1, 2, 3]
  contentType := "text/plain"
  extension := ".txt"
  kind := "note"

/-- A write is cut off after one byte, and another call persists the same content. -/
def cutOff : List (Bool × FilesystemAction) :=
  [(false, .persist note), (false, .next 1), (false, .next 1), (false, .next 1), (false, .crash),
    (true, .persist note), (true, .next 1), (true, .next 1)]

/-- A write goes on while another call persists the same content. -/
def overtaken : List (Bool × FilesystemAction) :=
  [(false, .persist note), (false, .next 1), (false, .next 1), (false, .next 1),
    (true, .persist note), (true, .next 1), (true, .next 1)]

/-- One call after the other. -/
def inTurn : List (Bool × FilesystemAction) :=
  [(false, .persist note), (false, .next 1), (false, .next 1), (false, .next 2), (false, .next 2),
    (false, .next 1), (true, .persist note), (true, .next 1), (true, .next 1)]

theorem cutOff_possible : (playFiles cutOff).isSome := by decide

theorem overtaken_possible : (playFiles overtaken).isSome := by decide

theorem inTurn_possible : (playFiles inTurn).isSome := by decide

/-- **A call returns a file that has only the beginning of its content**, after a crash and
without one. -/
theorem returned_truncated :
    (((playFiles cutOff).get cutOff_possible).2.process true = .returned note ∧
      ((playFiles cutOff).get cutOff_possible).2.shared (note.filePath sizeDigest "store") =
        some [1]) ∧
    ((playFiles overtaken).get overtaken_possible).2.process true = .returned note ∧
      ((playFiles overtaken).get overtaken_possible).2.shared (note.filePath sizeDigest "store") =
        some [1] := by
  decide

/-- One call after the other, each returns a whole file. -/
theorem returned_whole_inTurn :
    ∃ file, ((playFiles inTurn).get inTurn_possible).2.shared
        (note.filesystemRecord sizeDigest "store").storagePath = some file ∧
      file = [1, 2, 3] ∧
      "0x" ++ sizeDigest file = (note.filesystemRecord sizeDigest "store").sha256 :=
  returned_whole sizeDigest "store" (run_playFiles inTurn_possible) (by decide)
    (show ((playFiles inTurn).get inTurn_possible).2.process true = .returned note by
      decide)

end ScientificProtocol.Artifacts
