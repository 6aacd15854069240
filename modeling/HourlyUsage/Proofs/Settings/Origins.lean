import Mathlib.Data.List.Forall2
import HourlyUsage.Proofs.Text.Pieces
import HourlyUsage.Proofs.Text.Utf8
import HourlyUsage.Settings.App
/-!
# What a text says about the origins

The origins are given as one text. It is read as JSON, and a JSON text inside it is read once more; a
text that is no JSON has commas between its pieces. So a list comes out of an array and out of
pieces, whether in quotation marks or not. Only a JSON text inside a JSON text leaves one text behind,
in which an origin need only occur.

Sources: `parse_cors_origins`, and the reading of the text as JSON that comes before it.

Results:
* `checkItems_eq_ok_iff`: which items are a list of texts.
* `originsSetting_eq_ok_iff`: what the text of the origins stands for.
* `contains_iff`: when an origin is among the origins.
-/
namespace HourlyUsage

open Validation

namespace Validation

theorem mapError_eq_ok_iff {ε ε' α : Type} {r : Except ε α} {f : ε → ε'} {x : α} :
    r.mapError f = .ok x ↔ r = .ok x := by
  cases r <;> simp [Except.mapError]

theorem checkText_eq_ok_iff {t u : Text} : checkText t = .ok u ↔ t = u ∧ Utf8.Encodable u := by
  have hclean : t.any CodePoint.isSurrogate = false ↔ Utf8.Encodable t := by
    simp [Utf8.encodable_iff]
  unfold checkText
  constructor
  · intro h
    split at h
    · cases h
    · next hnone =>
      cases h
      exact ⟨rfl, hclean.1 (Bool.eq_false_iff.2 hnone)⟩
  · rintro ⟨rfl, ht⟩
    exact if_neg (Bool.eq_false_iff.1 (hclean.2 ht))

theorem textOfJson_eq_ok_iff {v : Json} {t : Text} :
    textOfJson v = .ok t ↔ v = .str t ∧ Utf8.Encodable t := by
  cases v with
  | str u => rw [textOfJson, checkText_eq_ok_iff, Json.str.injEq]
  | _ => simp [textOfJson]

end Validation

namespace Origins

/-- The origin is in the list or, where there is one text in place of a list, occurs in that. -/
def Matches (origin : Text) : Origins → Prop
  | list origins => origin ∈ origins
  | single t => origin <:+: t

def toJson : Origins → Json
  | list origins => .arr (origins.map .str)
  | single t => .str t

theorem map_str_inj {origins origins' : List Text} :
    origins.map Json.str = origins'.map Json.str ↔ origins = origins' :=
  (List.map_injective_iff.2 fun _ _ => Json.str.inj).eq_iff

theorem toJson_injective : Function.Injective toJson := by
  intro o o' h
  cases o <;> cases o'
  case list.list origins origins' => exact congrArg list (map_str_inj.1 (Json.arr.inj h))
  case single.single t t' => exact congrArg single (Json.str.inj h)
  case list.single => cases h
  case single.list => cases h

def Encodable : Origins → Prop
  | list origins => ∀ origin ∈ origins, Utf8.Encodable origin
  | single t => Utf8.Encodable t

theorem occursIn_iff {stem t : Text} : occursIn stem t = true ↔ stem <:+: t := by
  induction t with
  | nil => rw [occursIn, List.isEmpty_iff, List.infix_nil]
  | cons c t ih =>
    rw [occursIn, Bool.or_eq_true, Text.isSome_after?_iff, ih, List.infix_cons_iff]

/-- When an origin is among the origins. -/
theorem contains_iff {origin : Text} {o : Origins} : o.contains origin = true ↔ o.Matches origin := by
  cases o with
  | list origins => exact List.contains_iff_mem
  | single t => exact occursIn_iff

end Origins

namespace AppSettings

/-- The origins are the pieces between the commas of a text, without the blanks at the ends of each
and without those of which nothing is left. -/
def IsPieces (t : Text) (origins : List Text) : Prop :=
  ∃ trimmed, List.Forall₂ (Text.Trims CodePoint.isSpace) (t.splitOn 0x2C) trimmed ∧
    origins = trimmed.filter fun piece => !piece.isEmpty

theorem isPieces_iff {t : Text} {origins : List Text} : IsPieces t origins ↔ origins = pieces t := by
  have htrims : Text.Trims CodePoint.isSpace = fun t u => t.trim CodePoint.isSpace = u := by
    funext t u
    exact propext (Text.trims_iff.trans eq_comm)
  have hall : ∀ trimmed, List.Forall₂ (Text.Trims CodePoint.isSpace) (t.splitOn 0x2C) trimmed ↔
      (t.splitOn 0x2C).map (Text.trim CodePoint.isSpace) = trimmed := by
    intro trimmed
    rw [htrims, ← List.forall₂_map_left_iff (R := Eq), List.forall₂_eq_eq_eq]
  simp only [IsPieces, hall, pieces, Text.splitAll_eq_splitOn, exists_eq_left']

/-! ## Lists of texts -/

/-- There are no findings exactly if all results are texts, whatever number the first one has. -/
theorem filterMap_findings_iff {checked : List (Except Problem Text)} {n : Nat}
    {origins : List Text} :
    ((checked.zipIdx n).filterMap fun (r, i) =>
        match r with
        | .ok _ => none
        | .error p => some (⟨[.index i], p⟩ : Finding)) = [] ∧
      checked.filterMap Except.toOption = origins ↔ checked = origins.map .ok := by
  induction checked generalizing n origins with
  | nil => cases origins <;> simp
  | cons r rest ih =>
    cases r with
    | error p => cases origins <;> simp
    | ok t =>
      cases origins with
      | nil => simp [Except.toOption]
      | cons origin origins =>
        rw [List.map_cons, List.cons_eq_cons, ← ih (n := n + 1), Except.ok.injEq]
        simp [Except.toOption, and_left_comm]

/-- The list is that of the items, which are all texts. -/
theorem checkItems_eq_ok_iff {items : List Json} {origins : List Text} :
    checkItems items = .ok origins ↔
      items = origins.map .str ∧ ∀ origin ∈ origins, Utf8.Encodable origin := by
  have hchecked : items.map textOfJson = origins.map .ok ↔
      items = origins.map .str ∧ ∀ origin ∈ origins, Utf8.Encodable origin := by
    induction items generalizing origins with
    | nil => cases origins <;> simp
    | cons v items ih =>
      cases origins with
      | nil => simp
      | cons origin origins =>
        rw [List.map_cons, List.map_cons, List.map_cons, List.cons_eq_cons, List.cons_eq_cons, ih,
          textOfJson_eq_ok_iff, List.forall_mem_cons, and_and_and_comm]
  rw [← hchecked, ← filterMap_findings_iff (n := 0), checkItems]
  dsimp only
  split
  · next hnone =>
    rw [Except.ok.injEq]
    exact (and_iff_right (List.isEmpty_iff.1 hnone)).symm
  · next hsome => exact ⟨nofun, fun h => absurd (List.isEmpty_iff.2 h.1) hsome⟩

theorem checkList_eq_ok_iff {v : Json} {origins : List Text} :
    checkList v = .ok origins ↔
      v = .arr (origins.map .str) ∧ ∀ origin ∈ origins, Utf8.Encodable origin := by
  cases v with
  | arr items => rw [checkList, checkItems_eq_ok_iff, Json.arr.injEq]
  | _ => simp [checkList]

/-! ## The text of the origins -/

/-- A text that is handed over spells a list of origins, as a JSON array or in pieces. -/
inductive Spells (t : Text) (origins : List Text) : Prop
  | array (h : Json.parse t = .ok (.arr (origins.map .str)))
  | pieces (h : Json.parse t = .error .malformed) (h' : IsPieces t origins)

/-- What the text of the origins stands for. A text in quotation marks is handed over as what is
between them, and there the same holds. -/
inductive Denotes (t : Text) : Origins → Prop
  | plain {origins : List Text} (h : Spells t origins) : Denotes t (.list origins)
  | quoted {inner : Text} {origins : List Text} (h : Json.parse t = .ok (.str inner))
    (h' : Spells inner origins) : Denotes t (.list origins)
  | quotedTwice {inner origin : Text} (h : Json.parse t = .ok (.str inner))
    (h' : Json.parse inner = .ok (.str origin)) : Denotes t (.single origin)

/-- The origins are those that the value is a JSON value of, once unfolded. -/
theorem checkOrigins_eq_ok_iff {v : Json} {o : Origins} :
    checkOrigins v = .ok o ↔ unfoldOrigins v = .ok o.toJson ∧ o.Encodable := by
  unfold checkOrigins
  cases unfoldOrigins v with
  | error p => exact ⟨nofun, nofun⟩
  | ok w =>
    dsimp only
    rw [Except.ok.injEq]
    cases o with
    | single origin =>
      rw [Origins.toJson, Origins.Encodable, ← textOfJson_eq_ok_iff]
      cases textOfJson w with
      | ok t => simp
      | error p => cases checkList w <;> simp
    | list origins =>
      rw [Origins.toJson, Origins.Encodable, ← checkList_eq_ok_iff]
      cases htext : textOfJson w with
      | error p => cases checkList w <;> simp
      | ok t =>
        -- a text is no list
        obtain ⟨rfl, -⟩ := textOfJson_eq_ok_iff.1 htext
        exact ⟨nofun, nofun⟩

theorem unfoldOrigins_str_eq_ok_iff {t : Text} {w : Json} :
    unfoldOrigins (.str t) = .ok w ↔
      Json.parse t = .ok w ∨ Json.parse t = .error .malformed ∧ w = .arr ((pieces t).map .str) := by
  rw [unfoldOrigins]
  cases Json.parse t with
  | ok v => simp
  | error fault => cases fault <;> simp [eq_comm]

theorem spells_iff {t : Text} {origins : List Text} :
    Spells t origins ↔ unfoldOrigins (.str t) = .ok (Origins.list origins).toJson := by
  rw [unfoldOrigins_str_eq_ok_iff, Origins.toJson, Json.arr.injEq,
    Origins.map_str_inj, ← isPieces_iff]
  constructor
  · rintro (h | ⟨h, h'⟩)
    · exact .inl h
    · exact .inr ⟨h, h'⟩
  · rintro (h | ⟨h, h'⟩)
    · exact .array h
    · exact .pieces h h'

/-- The text that is left behind when one is handed over in quotation marks. -/
theorem unfoldOrigins_eq_single_iff {t origin : Text} :
    unfoldOrigins (.str t) = .ok (Origins.single origin).toJson ↔
      Json.parse t = .ok (.str origin) := by
  rw [unfoldOrigins_str_eq_ok_iff, or_iff_left (by rintro ⟨-, h⟩; cases h), Origins.toJson]

theorem denotes_iff {t : Text} {v : Json} {o : Origins} (hv : jsonOrText t = some v) :
    Denotes t o ↔ unfoldOrigins v = .ok o.toJson := by
  have hvalue : ∀ {w : Json}, Json.parse t = .ok w → v = w := by
    intro w hw
    cases w <;> simp_all [jsonOrText]
  constructor
  · intro h
    cases h with
    | plain h =>
      cases h with
      | array h => rw [hvalue h]; rfl
      | pieces h h' =>
        have hself : v = .str t := by simpa [jsonOrText, h, eq_comm] using hv
        rw [hself]
        exact spells_iff.1 (.pieces h h')
    | quoted h h' =>
      rw [hvalue h]
      exact spells_iff.1 h'
    | quotedTwice h h' =>
      rw [hvalue h]
      exact unfoldOrigins_eq_single_iff.2 h'
  · intro hunfold
    cases hparse : Json.parse t with
    | error fault =>
      have hself : v = .str t := by simpa [jsonOrText, hparse, eq_comm] using hv
      rw [hself] at hunfold
      cases o with
      | list origins => exact .plain (spells_iff.2 hunfold)
      | single origin => cases hparse.symm.trans (unfoldOrigins_eq_single_iff.1 hunfold)
    | ok w =>
      rw [hvalue hparse] at hunfold
      cases w with
      | str inner =>
        cases o with
        | list origins => exact .quoted hparse (spells_iff.2 hunfold)
        | single origin => exact .quotedTwice hparse (unfoldOrigins_eq_single_iff.1 hunfold)
      | _ =>
        have hself := Except.ok.inj hunfold
        cases o with
        | list origins => exact .plain (.array (hparse.trans (congrArg Except.ok hself)))
        | single origin => cases hself

theorem Denotes.of_error {t : Text} {o : Origins} {fault : Json.Fault} (h : Denotes t o)
    (hfault : Json.parse t = .error fault) :
    ∃ origins, IsPieces t origins ∧ o = .list origins := by
  cases h with
  | plain h =>
    cases h with
    | array h => cases hfault.symm.trans h
    | pieces _ h => exact ⟨_, h, rfl⟩
  | quoted h => cases hfault.symm.trans h
  | quotedTwice h => cases hfault.symm.trans h

theorem denotes_single_iff {t origin : Text} :
    Denotes t (.single origin) ↔
      ∃ inner, Json.parse t = .ok (.str inner) ∧ Json.parse inner = .ok (.str origin) := by
  constructor
  · intro h
    cases h with
    | quotedTwice h h' => exact ⟨_, h, h'⟩
  · rintro ⟨inner, h, h'⟩
    exact .quotedTwice h h'

theorem Denotes.unique {t : Text} {v : Json} {o o' : Origins} (hv : jsonOrText t = some v)
    (h : Denotes t o) (h' : Denotes t o') : o = o' := by
  rw [denotes_iff hv] at h h'
  exact Origins.toJson_injective (Except.ok.inj (h.symm.trans h'))

theorem jsonOrText_originsText {e : Environment} {t : Text} (h : originsText? e = some t) :
    ∃ v, jsonOrText t = some v := by
  have hkept : ∀ name source, originsIn e source = some (name, t) → ∃ v, jsonOrText t = some v := by
    intro name source hin
    exact Option.isSome_iff_exists.1 (Option.filter_eq_some_iff.1 hin).2
  obtain ⟨name, -, hget⟩ := List.exists_of_findSome?_eq_some h
  have hmem := Assoc.mem_of_get? hget
  rw [List.mem_append, Option.mem_toList, Option.mem_toList] at hmem
  exact hmem.elim (hkept name .process) (hkept name .file)

/-- What the text of the origins stands for, and the standard origins where there is none. -/
theorem originsSetting_eq_ok_iff {e : Environment} {o : Origins} :
    originsSetting e = .ok o ↔
      originsText? e = none ∧ o = standard.origins ∨
        ∃ t, originsText? e = some t ∧ Denotes t o ∧ o.Encodable := by
  unfold originsSetting
  cases htext : originsText? e with
  | none => simp [eq_comm]
  | some t =>
    obtain ⟨v, hv⟩ := jsonOrText_originsText htext
    have hchecked : checkOrigins v = .ok o ↔ Denotes t o ∧ o.Encodable := by
      rw [checkOrigins_eq_ok_iff, denotes_iff hv]
    simp [hv, mapError_eq_ok_iff, hchecked]

end AppSettings

end HourlyUsage
