import Mathlib.Data.List.Infix
import SchemaMigration.Migration.Basic

/-! # What a checksum covers

The bytes that are digested hold both definitions of a migration with a break between them, and a mark in
place of a reverse definition that is missing. Break and mark are texts themselves. So the bytes tell
definitions apart except where a definition has the break or the mark in it, and the cases in which they
do not are told exactly, by `Blurred`.
-/

namespace SchemaMigration

theorem toList_loop_bytes (bytes : ByteArray) (i : Nat) (read : List UInt8) :
    ByteArray.toList.loop bytes i read = read.reverse ++ bytes.data.toList.drop i := by
  fun_induction ByteArray.toList.loop bytes i read with
  | case1 i read inside ih =>
      have within : i < bytes.data.toList.length := inside
      rw [ih, List.reverse_cons, List.append_assoc, List.drop_eq_getElem_cons within]
      simp [ByteArray.get!, inside]
  | case2 i read outside =>
      rw [List.drop_of_length_le (Nat.not_lt.mp outside), List.append_nil]

theorem toList_bytes (bytes : ByteArray) : bytes.toList = bytes.data.toList :=
  toList_loop_bytes bytes 0 []

theorem toList_bytes_injective : Function.Injective ByteArray.toList := by
  intro a b same
  rw [toList_bytes, toList_bytes] at same
  exact ByteArray.ext (Array.toList_inj.mp same)

theorem utf8_injective : Function.Injective fun s : String => s.toUTF8.toList := by
  intro s t same
  have bytes : s.toUTF8 = t.toUTF8 := toList_bytes_injective same
  rwa [String.toUTF8_eq_toByteArray, String.toUTF8_eq_toByteArray, String.toByteArray_inj] at bytes

namespace Digest

theorem hexDigit_injective : ∀ m < 16, ∀ n < 16, hexDigit m = hexDigit n → m = n := by
  decide

theorem hexOfByte_injective {a b : UInt8} (same : hexOfByte a = hexOfByte b) : a = b := by
  have below (c : UInt8) : c.toNat / 16 < 16 ∧ c.toNat % 16 < 16 := by
    have := c.toNat_lt
    omega
  obtain ⟨high, low⟩ : hexDigit (a.toNat / 16) = hexDigit (b.toNat / 16) ∧
      hexDigit (a.toNat % 16) = hexDigit (b.toNat % 16) := by
    simpa [hexOfByte] using same
  have quotient := hexDigit_injective _ (below a).1 _ (below b).1 high
  have remainder := hexDigit_injective _ (below a).2 _ (below b).2 low
  apply UInt8.toNat_inj.mp
  omega

theorem hex_injective : Function.Injective hex := by
  intro as bs same
  replace same : as.flatMap hexOfByte = bs.flatMap hexOfByte := String.ofList_injective same
  induction as generalizing bs with
  | nil =>
      cases bs with
      | nil => rfl
      | cons b bs => simp [hexOfByte] at same
  | cons a as ih =>
      cases bs with
      | nil => simp [hexOfByte] at same
      | cons b bs =>
          rw [List.flatMap_cons, List.flatMap_cons] at same
          obtain ⟨first, rest⟩ := List.append_inj same rfl
          rw [hexOfByte_injective first, ih rest]

end Digest

/-- What a checksum stands for: the `Action.fingerprint` of both directions of a migration. -/
structure Definition where
  forward : String
  reverse : Option String
  deriving DecidableEq

def Migration.definition (m : Migration) : Definition :=
  ⟨m.up.fingerprint, m.down.map Action.fingerprint⟩

namespace Definition

open Checksum (noReverse)

/-- The bytes that are digested for a definition. -/
def digested (d : Definition) : List UInt8 :=
  (Checksum.subject d.forward d.reverse).toUTF8.toList

/-- Definitions that are digested as the second ones are, though they differ: the mark of a missing
    reverse text is the reverse text, or the second forward text goes on with the break where the first
    one ends, and what follows agrees. -/
inductive Blurred : Definition → Definition → Prop
  | mark (forward : String) : Blurred ⟨forward, none⟩ ⟨forward, some noReverse⟩
  | moved (forward tail : String) (reverse reverse' : Option String)
      (same : "\x00" ++ reverse.getD noReverse = tail ++ "\x00down\x00" ++ reverse'.getD noReverse) :
      Blurred ⟨forward, reverse⟩ ⟨forward ++ "\x00down" ++ tail, reverse'⟩

/-- A definition without the mark, and without the start of the break in its forward text. -/
structure Plain (d : Definition) : Prop where
  forward : ¬"\x00down".toList <:+: d.forward.toList
  reverse : d.reverse ≠ some noReverse

variable {d d' : Definition}

theorem Plain.not_blurred (plain : d'.Plain) : ¬d.Blurred d' := by
  intro blurred
  cases blurred with
  | mark => exact plain.reverse rfl
  | moved forward tail =>
      apply plain.forward
      exact ⟨forward.toList, tail.toList, by simp only [String.toList_append]⟩

/-- The break overlaps with itself in its outer characters only. -/
theorem break_shifted {shift first second : List Char} :
    "\x00down\x00".toList ++ first = shift ++ ("\x00down\x00".toList ++ second) ↔
      shift = [] ∧ first = second ∨
      ∃ tail, shift = "\x00down".toList ++ tail ∧
        "\x00".toList ++ first = tail ++ ("\x00down\x00".toList ++ second) := by
  constructor
  · intro same
    match shift with
    | [] => exact .inl ⟨rfl, List.append_cancel_left same⟩
    -- Its inner characters are letters, and the outer ones are not.
    | [_] | [_, _] | [_, _, _] | [_, _, _, _] => simp at same
    | a :: b :: c :: d :: e :: tail =>
        refine .inr ⟨tail, ?_⟩
        simp only [String.reduceToList, List.cons_append, List.nil_append, List.cons.injEq] at same ⊢
        obtain ⟨rfl, rfl, rfl, rfl, rfl, rest⟩ := same
        exact ⟨⟨rfl, rfl, rfl, rfl, rfl, trivial⟩, rest⟩
  · rintro (⟨rfl, rfl⟩ | ⟨tail, rfl, rest⟩)
    · rfl
    · simp only [String.reduceToList, List.cons_append, List.nil_append] at rest ⊢
      rw [rest]

theorem digested_eq_iff_append : d.digested = d'.digested ↔
    d.forward.toList ++ ("\x00down\x00".toList ++ (d.reverse.getD noReverse).toList) =
      d'.forward.toList ++ ("\x00down\x00".toList ++ (d'.reverse.getD noReverse).toList) := by
  rw [digested, digested, utf8_injective.eq_iff, ← String.toList_inj]
  simp only [Checksum.subject, String.toList_append, List.append_assoc, List.append_cancel_left_eq]

theorem Blurred.digested_eq (h : d.Blurred d') : d.digested = d'.digested := by
  cases h with
  | mark => rfl
  | moved forward tail reverse reverse' same =>
      rw [← String.toList_inj] at same
      simp only [String.toList_append, List.append_assoc] at same
      have shifted := break_shifted.mpr (.inr ⟨tail.toList, rfl, same⟩)
      rw [digested_eq_iff_append, shifted]
      simp only [String.toList_append, List.append_assoc]

theorem blurred_of_shift {shift : List Char} (longer : d'.forward.toList = d.forward.toList ++ shift)
    (same : "\x00down\x00".toList ++ (d.reverse.getD noReverse).toList =
      shift ++ ("\x00down\x00".toList ++ (d'.reverse.getD noReverse).toList)) :
    d = d' ∨ d.Blurred d' ∨ d'.Blurred d := by
  obtain ⟨forward, reverse⟩ := d
  obtain ⟨forward', reverse'⟩ := d'
  rcases break_shifted.mp same with ⟨rfl, rest⟩ | ⟨tail, rfl, rest⟩
  · obtain rfl : forward' = forward := by
      rw [← String.toList_inj, longer, List.append_nil]
    -- With the break at the same place, only the mark can hide a difference.
    replace rest : reverse.getD noReverse = reverse'.getD noReverse := String.toList_inj.mp rest
    cases reverse with
    | none =>
        cases reverse' with
        | none => exact .inl rfl
        | some text =>
            obtain rfl : noReverse = text := rest
            exact .inr (.inl (.mark _))
    | some text =>
        cases reverse' with
        | none =>
            obtain rfl : text = noReverse := rest
            exact .inr (.inr (.mark _))
        | some text' =>
            obtain rfl : text = text' := rest
            exact .inl rfl
  · obtain rfl : forward' = forward ++ "\x00down" ++ String.ofList tail := by
      rw [← String.toList_inj, longer, String.toList_append, String.toList_append,
        String.toList_ofList (l := tail), List.append_assoc]
    refine .inr (.inl (.moved _ _ _ _ ?_))
    rw [← String.toList_inj]
    simpa only [String.toList_append, String.toList_ofList, List.append_assoc] using rest

/-- The bytes tell definitions apart, except for those that are `Blurred`. -/
theorem digested_eq_iff : d.digested = d'.digested ↔ d = d' ∨ d.Blurred d' ∨ d'.Blurred d := by
  constructor
  · intro same
    rcases List.append_eq_append_iff.mp (digested_eq_iff_append.mp same) with
      ⟨shift, longer, rest⟩ | ⟨shift, longer, rest⟩
    · exact blurred_of_shift longer rest
    · exact (blurred_of_shift longer rest).imp Eq.symm Or.symm
  · rintro (rfl | blurred | blurred)
    · rfl
    · exact blurred.digested_eq
    · exact blurred.digested_eq.symm

end Definition

/-- The bytes that are digested are the same for definitions that are the same or blurred, and for no
    others, and of definitions that are plain none are blurred. So where the digest does not confuse the
    bytes of two migrations, their checksums tell the same. -/
theorem checksum_covers (d d' : Definition) :
    (d.digested = d'.digested ↔ d = d' ∨ d.Blurred d' ∨ d'.Blurred d) ∧
    (d.Plain → d'.Plain → ¬d.Blurred d' ∧ ¬d'.Blurred d) ∧
    ∀ m m' : Migration, m.definition = d → m'.definition = d' →
      (Digest.Sha256.digest d.digested = Digest.Sha256.digest d'.digested →
        d.digested = d'.digested) →
      (m.checksum = m'.checksum ↔ d = d' ∨ d.Blurred d' ∨ d'.Blurred d) := by
  refine ⟨Definition.digested_eq_iff, fun plain plain' => ⟨plain'.not_blurred, plain.not_blurred⟩, ?_⟩
  rintro m m' rfl rfl apart
  rw [← Definition.digested_eq_iff]
  constructor
  · intro same
    exact apart (Digest.hex_injective same)
  · intro same
    exact congrArg (fun bytes => Digest.hex (Digest.Sha256.digest bytes)) same

/-- The removal of a reverse text shows in the checksum of a small migration. -/
theorem checksum_covers_removed :
    let m : Migration := ⟨⟨"001", by decide⟩, none, .sql "SELECT 1", some (.sql "SELECT 2")⟩
    let m' : Migration := ⟨⟨"001", by decide⟩, none, .sql "SELECT 1", none⟩
    m.definition.Plain ∧ m'.definition.Plain ∧ m.checksum ≠ m'.checksum := by
  intro m m'
  have plain : m.definition.Plain := ⟨by decide, by decide⟩
  have plain' : m'.definition.Plain := ⟨by decide, by decide⟩
  refine ⟨plain, plain', fun same => ?_⟩
  obtain ⟨-, clear, told⟩ := checksum_covers m.definition m'.definition
  have apart : Digest.Sha256.digest m.definition.digested ≠
      Digest.Sha256.digest m'.definition.digested := by
    decide +kernel
  have confused := (told m m' rfl rfl fun collides => (apart collides).elim).mp same
  exact confused.elim (by decide) (not_or.mpr (clear plain plain'))

/-- A reverse text that is the mark of a missing one is digested as a missing one is, and so is text
    that moves from one direction to the other over a break in it. -/
theorem definitions_blurred :
    let missing : Definition := ⟨"SELECT 1", none⟩
    let marked : Definition := ⟨"SELECT 1", some "\x00strata:no-down\x00"⟩
    let short : Definition := ⟨"a", some "b\x00down\x00c"⟩
    let long : Definition := ⟨"a\x00down\x00b", some "c"⟩
    (missing.digested = marked.digested ∧ missing ≠ marked) ∧
      short.digested = long.digested ∧ short ≠ long := by
  intro missing marked short long
  refine ⟨⟨rfl, by decide⟩, ?_, by decide⟩
  exact congrArg (fun text : String => text.toUTF8.toList)
    (by decide : Checksum.subject short.forward short.reverse =
      Checksum.subject long.forward long.reverse)

end SchemaMigration
