import FramePress.Proofs.Settings.Validation

/-! # Several control messages

For each field the last message counts that asks for a number.  A value of the wrong type neither sets the
field nor hides what an earlier message has set; a number that the field cannot have sets it to another.

* `asks?`, `granted`: what a message asks for, and what the field has then.
* `updateAll`, `latest?`: several messages, and the last number that they ask for.
* `Merges`, `merge`: one message in place of two.
* `LastWriterWins`, `last_writer_wins`: the laws of updates.
-/

namespace FramePress.Settings
set_option autoImplicit false

variable {maxThreads : Nat} {s t : Settings} {u v w : Dictionary Json} {f : Field}

/-! ## One message -/

/-- The number that a message asks for under the key of a field. -/
def asks? (f : Field) (u : Dictionary Json) : Option Int := (u.find? f.key).bind (asked? f)

/-- The number that a field has once a number was asked for. -/
def granted (maxThreads : Nat) (f : Field) (n : Int) : Int :=
  if Admissible maxThreads f n then n else fallback maxThreads f n

theorem ruling_fst (maxThreads : Nat) (f : Field) (current : Int) (v? : Option Json) :
    (ruling maxThreads f current v?).1 = ((v?.bind (asked? f)).map (granted maxThreads f)).getD current := by
  unfold ruling
  cases v? with
  | none => rfl
  | some x =>
    dsimp only [Option.bind_some]
    cases asked? f x with
    | none => rfl
    | some n =>
      dsimp only [Option.map_some, Option.getD_some, granted]
      split <;> rfl

theorem value_update (maxThreads : Nat) (s : Settings) (u : Dictionary Json) (f : Field) :
    (s.update u maxThreads).1.value f = ((asks? f u).map (granted maxThreads f)).getD (s.value f) := by
  have hruling := congrArg Prod.fst (update_eq_ruling maxThreads s u f)
  exact hruling.trans (ruling_fst maxThreads f (s.value f) (u.find? f.key))

/-- The warnings are about the message alone. -/
theorem warnings_update (s t : Settings) (u : Dictionary Json) (maxThreads : Nat) :
    (s.update u maxThreads).2 = (t.update u maxThreads).2 := rfl

theorem code_injective_of_ofCode? {α : Type} {code : α → Nat} {ofCode? : Int → Option α}
    (h : ∀ n a, ofCode? n = some a ↔ n = code a) {a b : α} (hab : (code a : Int) = code b) : a = b := by
  have ha := (h _ a).mpr rfl
  rw [(h _ b).mpr hab] at ha
  exact (Option.some.inj ha).symm

/-- Settings are told apart by the numbers of their fields and the sizes of the frame. -/
theorem ext_value (htype : s.typeSize = t.typeSize) (hraw : s.rawSize = t.rawSize)
    (hvalue : ∀ f, s.value f = t.value f) : s = t := by
  obtain ⟨compressor, level, shuffle, threads, typeSize, rawSize⟩ := s
  obtain ⟨compressor', level', shuffle', threads', typeSize', rawSize'⟩ := t
  obtain rfl : compressor = compressor' :=
    code_injective_of_ofCode? (fun _ _ => Compressor.ofCode?_eq_some) (hvalue .compressor)
  obtain rfl : shuffle = shuffle' :=
    code_injective_of_ofCode? (fun _ _ => ShuffleMode.ofCode?_eq_some) (hvalue .shuffle)
  obtain rfl : level = level' := hvalue .level
  obtain rfl : threads = threads' := Int.ofNat.inj (hvalue .threads)
  obtain rfl : typeSize = typeSize' := htype
  obtain rfl : rawSize = rawSize' := hraw
  rfl

/-! ## Several messages -/

def updateAll (maxThreads : Nat) (s : Settings) (us : List (Dictionary Json)) : Settings :=
  us.foldl (fun s u => (s.update u maxThreads).1) s

/-- The number that is asked for by the last message that asks for one. -/
def latest? (f : Field) (us : List (Dictionary Json)) : Option Int := us.reverse.findSome? (asks? f)

theorem latest?_cons (f : Field) (u : Dictionary Json) (us : List (Dictionary Json)) :
    latest? f (u :: us) = (latest? f us).or (asks? f u) := by
  unfold latest?
  rw [List.reverse_cons, List.findSome?_append, List.findSome?_singleton]

/-- A number that was granted stays until another one is granted. -/
theorem getD_granted_or (a b : Option Int) (current : Int) :
    ((a.or b).map (granted maxThreads f)).getD current =
      (a.map (granted maxThreads f)).getD ((b.map (granted maxThreads f)).getD current) := by
  cases a with
  | none => rfl
  | some n => rfl

theorem value_updateAll (maxThreads : Nat) (s : Settings) (us : List (Dictionary Json)) (f : Field) :
    (updateAll maxThreads s us).value f =
      ((latest? f us).map (granted maxThreads f)).getD (s.value f) := by
  induction us generalizing s with
  | nil => rfl
  | cons u us ih =>
    calc (updateAll maxThreads s (u :: us)).value f
      _ = ((latest? f us).map (granted maxThreads f)).getD ((s.update u maxThreads).1.value f) := ih _
      _ = ((latest? f (u :: us)).map (granted maxThreads f)).getD (s.value f) := by
        rw [value_update, latest?_cons, getD_granted_or]

theorem frameSizes_updateAll (maxThreads : Nat) (s : Settings) (us : List (Dictionary Json)) :
    (updateAll maxThreads s us).typeSize = s.typeSize ∧ (updateAll maxThreads s us).rawSize = s.rawSize := by
  induction us generalizing s with
  | nil => exact ⟨rfl, rfl⟩
  | cons u us ih => exact ih _

/-- Sequences of messages with the same effect on each field have the same effect. -/
theorem updateAll_congr (s : Settings) (us vs : List (Dictionary Json))
    (h : ∀ f, latest? f us = latest? f vs) : updateAll maxThreads s us = updateAll maxThreads s vs := by
  obtain ⟨htype, hraw⟩ := frameSizes_updateAll maxThreads s us
  obtain ⟨htype', hraw'⟩ := frameSizes_updateAll maxThreads s vs
  refine ext_value (htype.trans htype'.symm) (hraw.trans hraw'.symm) fun f => ?_
  rw [value_updateAll, value_updateAll, h]

/-! ## Two messages -/

theorem latest?_singleton (f : Field) (u : Dictionary Json) : latest? f [u] = asks? f u :=
  List.findSome?_singleton

theorem latest?_pair (f : Field) (u v : Dictionary Json) :
    latest? f [u, v] = (asks? f v).or (asks? f u) := by
  rw [latest?_cons, latest?_singleton]

/-- `w` has the value of `v` under the key of each field for which `v` asks for a number, and otherwise that of
`u`, if there is one. -/
def Merges (u v w : Dictionary Json) : Prop :=
  ∀ f : Field, w.find? f.key = if (asks? f v).isSome then v.find? f.key else u.find? f.key

theorem Merges.asks? (h : Merges u v w) (f : Field) :
    Settings.asks? f w = (Settings.asks? f v).or (Settings.asks? f u) := by
  have hw : Settings.asks? f w = (w.find? f.key).bind (asked? f) := rfl
  rw [hw, h f]
  cases hv : Settings.asks? f v with
  | none => rfl
  | some n => exact hv

/-- The value for one field taken over. -/
def mergeField (v w : Dictionary Json) (f : Field) : Dictionary Json :=
  match v.find? f.key with
  | none => w
  | some x => if (asked? f x).isSome then w.insert f.key x else w

/-- The values of `v` for which it asks for numbers, and the values of `u`. -/
def merge (u v : Dictionary Json) : Dictionary Json :=
  [Field.compressor, .threads, .level, .shuffle].foldl (mergeField v) u

theorem key_inj {f g : Field} : f.key = g.key ↔ f = g := by
  cases f <;> cases g <;> decide

theorem find?_mergeField (v w : Dictionary Json) (f g : Field) :
    (mergeField v w f).find? g.key =
      if g = f ∧ (asks? g v).isSome then v.find? g.key else w.find? g.key := by
  unfold mergeField asks?
  by_cases hg : g = f
  · subst hg
    cases v.find? g.key with
    | none => simp
    | some x =>
      dsimp only [Option.bind_some]
      by_cases hasked : (asked? g x).isSome
      · rw [if_pos hasked, if_pos ⟨rfl, hasked⟩, Dictionary.find?_insert, if_pos rfl]
      · rw [if_neg hasked, if_neg fun h => hasked h.2]
  · rw [if_neg fun h => hg h.1]
    cases v.find? f.key with
    | none => rfl
    | some x =>
      dsimp only
      split
      · rw [Dictionary.find?_insert, if_neg (mt key_inj.mp hg)]
      · rfl

theorem merges_merge (u v : Dictionary Json) : Merges u v (merge u v) := by
  intro f
  unfold merge
  simp only [List.foldl_cons, List.foldl_nil, find?_mergeField]
  cases f <;> simp

/-! ## The laws -/

/-- What holds of updates, for a codec with some number of threads. -/
structure LastWriterWins (maxThreads : Nat) : Prop where
  /-- A field has what was granted to the last message that asks for a number, or what it had at first. -/
  value : ∀ (s : Settings) (us : List (Dictionary Json)) (f : Field), (updateAll maxThreads s us).value f =
    ((latest? f us).map (granted maxThreads f)).getD (s.value f)
  frameSizes : ∀ (s : Settings) (us : List (Dictionary Json)),
    (updateAll maxThreads s us).typeSize = s.typeSize ∧ (updateAll maxThreads s us).rawSize = s.rawSize
  merged : ∀ (s : Settings) (u v w : Dictionary Json), Merges u v w →
    ((s.update u maxThreads).1.update v maxThreads).1 = (s.update w maxThreads).1
  exists_merged : ∀ u v : Dictionary Json, ∃ w, Merges u v w
  comm : ∀ (s : Settings) (u v : Dictionary Json),
    (∀ f : Field, u.find? f.key = none ∨ v.find? f.key = none) →
      ((s.update u maxThreads).1.update v maxThreads).1 = ((s.update v maxThreads).1.update u maxThreads).1
  twice : ∀ (s : Settings) (u : Dictionary Json),
    ((s.update u maxThreads).1.update u maxThreads).1 = (s.update u maxThreads).1
  warnings : ∀ (s t : Settings) (u : Dictionary Json), (s.update u maxThreads).2 = (t.update u maxThreads).2

theorem asks?_of_find?_eq_none (h : u.find? f.key = none) : asks? f u = none := by
  unfold asks?
  rw [h, Option.bind_none]

theorem last_writer_wins (maxThreads : Nat) : LastWriterWins maxThreads where
  value := value_updateAll maxThreads
  frameSizes := frameSizes_updateAll maxThreads
  merged s u v w h := by
    refine updateAll_congr s [u, v] [w] fun f => ?_
    rw [latest?_pair, latest?_singleton, h.asks?]
  exists_merged u v := ⟨merge u v, merges_merge u v⟩
  comm s u v h := by
    refine updateAll_congr s [u, v] [v, u] fun f => ?_
    rw [latest?_pair, latest?_pair]
    rcases h f with hu | hv
    · rw [asks?_of_find?_eq_none hu, Option.or_none, Option.none_or]
    · rw [asks?_of_find?_eq_none hv, Option.or_none, Option.none_or]
  twice s u := by
    refine updateAll_congr s [u, u] [u] fun f => ?_
    rw [latest?_pair, latest?_singleton, Option.or_self]
  warnings s t u := warnings_update s t u maxThreads

/-- A level above the range, then no level at all, then settings of other fields. -/
theorem last_writer_wins_masked :
    let high : Dictionary Json := [("level", .integer 12), ("threads", .integer 3)]
    let wrong : Dictionary Json := [("compressor", .integer 5), ("level", .string "low")]
    let other : Dictionary Json := [("shuffle", .integer 1)]
    let final := updateAll 8 {} [high, wrong, other]
    final.value .level = 9 ∧ final.value .threads = 3 ∧ final.value .compressor = 5 ∧
      (∀ f : Field, wrong.find? f.key = none ∨ other.find? f.key = none) ∧
      ((({} : Settings).update wrong 8).1.update other 8).1 =
        ((({} : Settings).update other 8).1.update wrong 8).1 := by
  intro high wrong other final
  have hvalue := (last_writer_wins 8).value {} [high, wrong, other]
  have hdisjoint : ∀ f : Field, wrong.find? f.key = none ∨ other.find? f.key = none := by
    intro f
    cases f with
    | compressor => exact .inr rfl
    | threads => exact .inl rfl
    | level => exact .inr rfl
    | shuffle => exact .inl rfl
  exact ⟨(hvalue .level).trans rfl, (hvalue .threads).trans rfl, (hvalue .compressor).trans rfl, hdisjoint,
    (last_writer_wins 8).comm {} wrong other hdisjoint⟩

end FramePress.Settings
