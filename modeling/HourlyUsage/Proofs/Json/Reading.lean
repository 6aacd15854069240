import Mathlib.Data.List.Basic
import HourlyUsage.Json.Parser
import HourlyUsage.Json.Printer
import HourlyUsage.Proofs.Numeral
import HourlyUsage.Proofs.Snapshot.Grammar
import HourlyUsage.Proofs.Text.Pieces
/-!
# JSON that is read back

The reader after the printer, for values whose texts hold no surrogates, whose numbers are whole and
whose objects name no field twice. What follows the value in the text may be anything that does not
go on with a number.

Sources: the JSON text of a response, and the reader of JSON that the settings use.

Results:
* `stringBody_string`: a string is read back, whatever has to be escaped in it.
* `readNumber_ofInt`: a whole number is read back.
* `readValue_compact`, `parseWithin_compact`: a value is read back.
* `compact_inj`: different values have different texts.
-/
namespace HourlyUsage.Json

/-! ## Strings -/

theorem hex4?_hex {n : Nat} (hn : n < 0x20) (rest : Text) :
    ∃ a b c d, Quoted.hex 4 n ++ rest = a :: b :: c :: d :: rest ∧ hex4? a b c d = some n := by
  have hdigits : ∀ n < 0x20, hex4? (Quoted.hexDigit (n / 16 / 16 / 16))
      (Quoted.hexDigit (n / 16 / 16)) (Quoted.hexDigit (n / 16)) (Quoted.hexDigit n) = some n := by
    decide
  exact ⟨_, _, _, _, rfl, hdigits n hn⟩

theorem addEscaped_control {c : CodePoint} (hc : c.val < 0x20) (acc : Text) (open? : Option Nat) :
    addEscaped acc open? c.val = (c :: acc, some c.val) := by
  have hpair : ∀ high, pair? high c.val = none := by
    intro high
    rw [pair?, if_neg]
    simp
    omega
  have hbind : open?.bind (pair? · c.val) = none := by
    cases open? with
    | none => rfl
    | some high => exact hpair high
  unfold addEscaped
  rw [hbind, Utf8.ofNat_val]

theorem stringBody_escapePoint {c : CodePoint} (hc : c.isSurrogate = false) (acc : Text)
    (open? : Option Nat) (rest : Text) :
    ∃ open', stringBody acc open? (escapePoint c ++ rest) = stringBody (c :: acc) open' rest := by
  have hval : ∀ n : CodePoint, c.val = n.val → c = n := fun n h => Fin.ext h
  unfold escapePoint
  split
  · next h => rw [hval 0x22 h]; exact ⟨none, rfl⟩
  · next h => rw [hval 0x5C h]; exact ⟨none, rfl⟩
  · next h => rw [hval 0x08 h]; exact ⟨none, rfl⟩
  · next h => rw [hval 0x0C h]; exact ⟨none, rfl⟩
  · next h => rw [hval 0x0A h]; exact ⟨none, rfl⟩
  · next h => rw [hval 0x0D h]; exact ⟨none, rfl⟩
  · next h => rw [hval 0x09 h]; exact ⟨none, rfl⟩
  · next hmark hbackslash _ _ _ _ _ =>
    rw [hc, Bool.or_false]
    split
    · next hcontrol =>
      have hlt := of_decide_eq_true hcontrol
      obtain ⟨a, b, d, e, hdigits, hspelt⟩ := hex4?_hex hlt rest
      refine ⟨some c.val, ?_⟩
      rw [List.cons_append, List.cons_append, hdigits, stringBody, hspelt]
      dsimp only
      rw [addEscaped_control hlt]
    · next hplain =>
      refine ⟨none, ?_⟩
      have hshown : ¬ c.val < 0x20 := fun h => hplain (decide_eq_true h)
      rw [List.singleton_append]
      -- The patterns of quotation mark and backslash are out.
      rw [stringBody.eq_def acc open? (c :: rest)]
      split
      · next heq => cases heq
      · next heq => exact absurd (congrArg Fin.val (List.cons.inj heq).1) hmark
      · next heq => exact absurd (congrArg Fin.val (List.cons.inj heq).1) hbackslash
      · next heq => exact absurd (congrArg Fin.val (List.cons.inj heq).1) hbackslash
      · next heq =>
        obtain ⟨rfl, rfl⟩ := List.cons.inj heq
        have hnot : c ≠ 0x5C := fun h => hbackslash (congrArg Fin.val h)
        rw [if_neg (by simp [hshown, hnot])]

/-- A text is read back from between its quotation marks. -/
theorem stringBody_string {t : Text} (ht : Utf8.Encodable t) (acc : Text) (open? : Option Nat)
    (rest : Text) :
    stringBody acc open? (t.flatMap escapePoint ++ 0x22 :: rest) =
      some (acc.reverse ++ t, rest) := by
  rw [Utf8.encodable_iff] at ht
  induction t generalizing acc open? with
  | nil => rw [List.append_nil]; rfl
  | cons c t ih =>
    obtain ⟨hc, hrest⟩ := List.forall_mem_cons.1 ht
    obtain ⟨open', hpoint⟩ :=
      stringBody_escapePoint hc acc open? (t.flatMap escapePoint ++ 0x22 :: rest)
    rw [List.flatMap_cons, List.append_assoc, hpoint, ih hrest, List.reverse_cons,
      List.append_assoc, List.singleton_append]

/-! ## Numbers -/

def EndsNumber (t : Text) : Prop :=
  ∀ c ∈ t.head?, c.asciiDigit? = none ∧ c ≠ 0x2E ∧ c ≠ 0x65 ∧ c ≠ 0x45

theorem endsNumber_cons {c : CodePoint}
    (hc : c.asciiDigit? = none ∧ c ≠ 0x2E ∧ c ≠ 0x65 ∧ c ≠ 0x45) (rest : Text) :
    EndsNumber (c :: rest) := by
  rintro d ⟨⟩
  exact hc

theorem digitRun_append {t rest : Text} {digits : List Nat} (h : Numeral.digits? t = some digits)
    (hrest : EndsNumber rest) : digitRun (t ++ rest) = (digits, rest) := by
  obtain ⟨hall, rfl⟩ := Numeral.digits?_eq_some_iff.1 h
  have hdigit : ∀ c ∈ t, c.asciiDigit? = some (c.val - 0x30) :=
    fun c hc => Numeral.asciiDigit?_eq_some_iff.2 ⟨hall c hc, rfl⟩
  have hsome : ∀ c ∈ t, c.asciiDigit?.isSome = true := fun c hc => by rw [hdigit c hc]; rfl
  have hstop : rest.takeWhile (·.asciiDigit?.isSome) = [] ∧
      rest.dropWhile (·.asciiDigit?.isSome) = rest := by
    cases rest with
    | nil => exact ⟨rfl, rfl⟩
    | cons c rest =>
      have hc := (hrest c rfl).1
      simp [hc]
  rw [digitRun, List.takeWhile_append_of_pos hsome, List.dropWhile_append_of_pos hsome, hstop.1,
    hstop.2, List.append_nil, List.filterMap_congr hdigit, List.filterMap_eq_map']

/-- A zero stands alone, so the digits of a number are read up to what follows it. -/
theorem wholeDigits_ofNat {n : Nat} {digits : List Nat}
    (hdigits : Numeral.digits? (Numeral.ofNat n) = some digits) {rest : Text}
    (hrest : EndsNumber rest) : wholeDigits (Numeral.ofNat n ++ rest) = (digits, rest) := by
  have hrun := digitRun_append hdigits hrest
  unfold wholeDigits
  split
  · next more hzero =>
    obtain ⟨c, tail, ht, -⟩ := Numeral.ofNat_eq_cons n
    rw [ht, List.cons_append] at hzero
    obtain ⟨rfl, rfl⟩ := List.cons.inj hzero
    obtain rfl := Numeral.ofNat_of_leading_zero ht
    rw [ht] at hdigits
    rw [← Option.some.inj hdigits]
    rfl
  · exact hrun

theorem fraction_of_ends {t : Text} (h : EndsNumber t) : fraction t = ([], t) := by
  unfold fraction
  split
  · exact absurd rfl (h _ rfl).2.1
  · rfl

theorem exponent?_of_ends {t : Text} (h : EndsNumber t) : exponent? t = (none, t) := by
  cases t with
  | nil => rfl
  | cons c rest =>
    obtain ⟨-, -, hsmall, hgreat⟩ := h c rfl
    simp [exponent?, hsmall, hgreat]

theorem hyphen_ofNat (n : Nat) (rest : Text) :
    hyphen (Numeral.ofNat n ++ rest) = (false, Numeral.ofNat n ++ rest) := by
  unfold hyphen
  split
  · next more hmark =>
    obtain ⟨c, tail, ht, hdigit⟩ := Numeral.ofNat_eq_cons n
    rw [ht, List.cons_append] at hmark
    rw [(List.cons.inj hmark).1] at hdigit
    exact absurd hdigit (by decide)
  · rfl

/-- The number of digits that an integer is written with. -/
def digitCount (n : Int) : Nat := (Numeral.ofNat n.natAbs).length

/-- A whole number that is not too long is read back. -/
theorem readNumber_ofInt {limit? : Option Nat} {n : Int}
    (hfits : ∀ most ∈ limit?, digitCount n ≤ most) {rest : Text} (hrest : EndsNumber rest) :
    readNumber limit? (Numeral.ofInt n ++ rest) = .ok (.whole n, rest) := by
  obtain ⟨digits, hdigits, hvalue, hnonempty, -⟩ := Numeral.digits?_ofNat n.natAbs
  have hlength : digits.length = digitCount n := by
    rw [← (Numeral.digits?_eq_some_iff.1 hdigits).2, List.length_map, digitCount]
  have hshort : limit?.any (· < digits.length) = false := by
    rw [hlength]
    cases limit? with
    | none => rfl
    | some most => simpa using hfits most rfl
  have hwhole := wholeDigits_ofNat hdigits hrest
  have hhyphen : ∃ negative, hyphen (Numeral.ofInt n ++ rest) =
      (negative, Numeral.ofNat n.natAbs ++ rest) ∧ Numeral.signed negative n.natAbs = n := by
    cases n with
    | ofNat n => exact ⟨false, hyphen_ofNat n rest, rfl⟩
    | negSucc n => exact ⟨true, rfl, rfl⟩
  obtain ⟨negative, hsplit, hsigned⟩ := hhyphen
  have hempty : digits.isEmpty = false := by simpa using hnonempty
  simp [readNumber, hsplit, hwhole, hempty, fraction_of_ends hrest, exponent?_of_ends hrest, hshort,
    hvalue, hsigned]

theorem ofInt_eq_cons (n : Int) :
    ∃ c more, Numeral.ofInt n = c :: more ∧ (c = 0x2D ∨ 0x30 ≤ c.val ∧ c.val ≤ 0x39) := by
  cases n with
  | ofNat n =>
    obtain ⟨c, more, ht, hdigit⟩ := Numeral.ofNat_eq_cons n
    exact ⟨c, more, ht, .inr hdigit⟩
  | negSucc n => exact ⟨_, _, rfl, .inl rfl⟩

theorem ne_of_number {c d : CodePoint} (hc : c = 0x2D ∨ 0x30 ≤ c.val ∧ c.val ≤ 0x39)
    (hd : d ≠ 0x2D ∧ ¬ (0x30 ≤ d.val ∧ d.val ≤ 0x39)) : c ≠ d := by
  rintro rfl
  exact hc.elim hd.1 hd.2

/-! ## Words -/

theorem words_have_no_digit :
    ∀ entry ∈ words, 2 ≤ entry.1.length ∧ ∀ c ∈ entry.1, c.asciiDigit? = none := by
  have hall : (words.all fun entry => 2 ≤ entry.1.length && entry.1.all (·.asciiDigit? = none)) =
      true := by decide
  simpa using hall

theorem word?_eq_none {t : Text} (h : ∃ c ∈ t.take 2, c.asciiDigit? ≠ none) : word? t = none := by
  obtain ⟨c, hc, hdigit⟩ := h
  refine List.findSome?_eq_none_iff.2 fun (word, v) hmem => ?_
  obtain ⟨hlong, hnone⟩ := words_have_no_digit _ hmem
  refine Option.map_eq_none_iff.2 (Option.eq_none_iff_forall_ne_some.2 fun rest hafter => ?_)
  rw [Text.after?_eq_some_iff.1 hafter, List.take_append_of_le_length hlong] at hc
  exact hdigit (hnone c (List.mem_of_mem_take hc))

theorem digit_mem_ofInt (n : Int) (rest : Text) :
    ∃ c ∈ (Numeral.ofInt n ++ rest).take 2, c.asciiDigit? ≠ none := by
  have hdigit : ∀ {c : CodePoint}, 0x30 ≤ c.val ∧ c.val ≤ 0x39 → c.asciiDigit? ≠ none := by
    intro c hc
    rw [Numeral.asciiDigit?_eq_some_iff.2 ⟨hc, rfl⟩]
    exact Option.some_ne_none _
  cases n with
  | ofNat n =>
    obtain ⟨c, tail, ht, hc⟩ := Numeral.ofNat_eq_cons n
    exact ⟨c, by simp [Numeral.ofInt, ht], hdigit hc⟩
  | negSucc n =>
    obtain ⟨c, tail, ht, hc⟩ := Numeral.ofNat_eq_cons (n + 1)
    exact ⟨c, by simp [Numeral.ofInt, ht], hdigit hc⟩

/-! ## Values -/

/-- The value can be written so that it is read back: its texts hold no surrogates, its numbers are
whole and not too long, and its objects name no field twice. -/
inductive Readable (limit? : Option Nat) : Json → Prop where
  | null : Readable limit? .null
  | bool (b : Bool) : Readable limit? (.bool b)
  | int {n : Int} (fits : ∀ most ∈ limit?, digitCount n ≤ most) : Readable limit? (.int n)
  | str {t : Text} (encodable : Utf8.Encodable t) : Readable limit? (.str t)
  | arr {items : List Json} (items_readable : ∀ v ∈ items, Readable limit? v) :
      Readable limit? (.arr items)
  | obj {fields : List (Text × Json)} (nodup : (fields.map Prod.fst).Nodup)
      (names : ∀ field ∈ fields, Utf8.Encodable field.1)
      (values : ∀ field ∈ fields, Readable limit? field.2) : Readable limit? (.obj fields)

variable {limit? : Option Nat}

theorem compact_int (n : Int) : (Json.int n).compact = Numeral.ofInt n := by
  rw [Json.int, compact, Number.toText]

/-- Neither a blank nor the end of an array stands at the front of a value. -/
theorem head?_compact {v : Json} (h : Readable limit? v) :
    ∃ c, v.compact.head? = some c ∧ isBlank c = false ∧ c ≠ 0x5D := by
  cases h with
  | null => exact ⟨_, rfl, by decide, by decide⟩
  | bool b => cases b <;> exact ⟨_, rfl, by decide, by decide⟩
  | @int n _ =>
    obtain ⟨c, more, hcons, hc⟩ := ofInt_eq_cons n
    refine ⟨c, by rw [compact_int, hcons]; rfl, ?_⟩
    have hblank : isBlank c = false := by
      simp [isBlank, ne_of_number (d := 0x20) hc (by decide),
        ne_of_number (d := 0x09) hc (by decide), ne_of_number (d := 0x0A) hc (by decide),
        ne_of_number (d := 0x0D) hc (by decide)]
    exact ⟨hblank, ne_of_number hc (by decide)⟩
  | str _ => exact ⟨_, rfl, by decide, by decide⟩
  | arr _ => exact ⟨_, rfl, by decide, by decide⟩
  | obj _ _ _ => exact ⟨_, rfl, by decide, by decide⟩

theorem skipBlanks_of_head? {t : Text} {c : CodePoint} (h : t.head? = some c)
    (hc : isBlank c = false) : skipBlanks t = t := by
  cases t with
  | nil => rfl
  | cons d t =>
    obtain rfl := Option.some.inj h
    rw [skipBlanks, List.dropWhile_cons_of_neg (by simp [hc])]

theorem join_singleton (piece : Text) : Text.join [0x2C] [piece] = piece :=
  List.intercalate_singleton

theorem join_cons_cons (piece next : Text) (pieces : List Text) :
    Text.join [0x2C] (piece :: next :: pieces) =
      piece ++ 0x2C :: Text.join [0x2C] (next :: pieces) := by
  rw [Text.join, List.intercalate_cons_cons, List.append_assoc, List.singleton_append, ← Text.join]

/-- What stands at the front of the first piece stands at the front of all. -/
theorem head?_join {piece : Text} {c : CodePoint} (h : piece.head? = some c) (pieces : List Text)
    (rest : Text) : (Text.join [0x2C] (piece :: pieces) ++ rest).head? = some c := by
  cases pieces with
  | nil => rw [join_singleton, List.head?_append, h, Option.some_or]
  | cons next pieces =>
    rw [join_cons_cons, List.head?_append, List.head?_append, h, Option.some_or, Option.some_or]

/-- The reader reads the value where it was written, given enough fuel. -/
def ReadsBack (limit? : Option Nat) (v : Json) : Prop :=
  ∀ fuel rest, v.compact.length < fuel → EndsNumber rest →
    readValue limit? fuel (v.compact ++ rest) = .ok (v, rest)

theorem readValue_of_number {t : Text} (hword : word? t = none)
    (hfirst : ∀ c ∈ t.head?, c ≠ 0x22 ∧ c ≠ 0x5B ∧ c ≠ 0x7B) (fuel : Nat) :
    readValue limit? (fuel + 1) t =
      (readNumber limit? t).map fun (n, rest) => (.number n, rest) := by
  rw [readValue, hword]
  · rintro rest rfl
    exact (hfirst _ rfl).1 rfl
  · rintro rest rfl
    exact (hfirst _ rfl).2.1 rfl
  · rintro rest rfl
    exact (hfirst _ rfl).2.2 rfl

theorem readsBack_int {n : Int} (hfits : ∀ most ∈ limit?, digitCount n ≤ most) :
    ReadsBack limit? (.int n) := by
  intro fuel rest hfuel hrest
  obtain ⟨fuel, rfl⟩ := Nat.exists_eq_add_one_of_ne_zero (Nat.ne_zero_of_lt hfuel)
  obtain ⟨c, more, hcons, hc⟩ := ofInt_eq_cons n
  have hfirst : ∀ d ∈ (Numeral.ofInt n ++ rest).head?, d ≠ 0x22 ∧ d ≠ 0x5B ∧ d ≠ 0x7B := by
    rw [hcons]
    rintro d ⟨⟩
    exact ⟨ne_of_number hc (by decide), ne_of_number hc (by decide), ne_of_number hc (by decide)⟩
  have hword := word?_eq_none (digit_mem_ofInt n rest)
  rw [compact_int, readValue_of_number hword hfirst, readNumber_ofInt hfits hrest]
  rfl

theorem readsBack_str {t : Text} (ht : Utf8.Encodable t) : ReadsBack limit? (.str t) := by
  intro fuel rest hfuel _
  obtain ⟨fuel, rfl⟩ := Nat.exists_eq_add_one_of_ne_zero (Nat.ne_zero_of_lt hfuel)
  rw [compact, string, List.append_assoc, List.cons_append, List.singleton_append, readValue,
    stringBody_string ht]
  rfl

theorem readItems_compactAll {v : Json} {items : List Json}
    (hreadable : ∀ w ∈ v :: items, Readable limit? w)
    (hback : ∀ w ∈ v :: items, ReadsBack limit? w) (fuel : Nat) (acc : List Json) (rest : Text)
    (hfuel : (Text.join [0x2C] (compactAll (v :: items))).length + 1 < fuel) :
    readItems limit? fuel acc (Text.join [0x2C] (compactAll (v :: items)) ++ 0x5D :: rest) =
      .ok (.arr (acc.reverse ++ v :: items), rest) := by
  induction items generalizing v acc fuel with
  | nil =>
    obtain ⟨fuel, rfl⟩ := Nat.exists_eq_add_one_of_ne_zero (Nat.ne_zero_of_lt hfuel)
    rw [compactAll, compactAll, join_singleton] at hfuel ⊢
    rw [readItems, hback v (List.mem_cons_self ..) fuel _ (by omega)
      (endsNumber_cons (by decide) rest), ← List.reverse_cons]
    rfl
  | cons next items ih =>
    obtain ⟨fuel, rfl⟩ := Nat.exists_eq_add_one_of_ne_zero (Nat.ne_zero_of_lt hfuel)
    obtain ⟨-, hreadable⟩ := List.forall_mem_cons.1 hreadable
    obtain ⟨hfirst, hback⟩ := List.forall_mem_cons.1 hback
    obtain ⟨c, hc, hblank, -⟩ := head?_compact (hreadable next (List.mem_cons_self ..))
    have hskip := skipBlanks_of_head? (head?_join hc (compactAll items) (0x5D :: rest)) hblank
    rw [← compactAll] at hskip
    rw [compactAll, compactAll, join_cons_cons, ← compactAll] at hfuel ⊢
    rw [List.length_append, List.length_cons] at hfuel
    calc readItems limit? (fuel + 1) acc _
        = readItems limit? fuel (v :: acc)
            (skipBlanks (Text.join [0x2C] (compactAll (next :: items)) ++ 0x5D :: rest)) := by
          rw [readItems, List.append_assoc, List.cons_append,
            hfirst fuel _ (by omega) (endsNumber_cons (by decide) _)]
          rfl
      _ = .ok (.arr ((v :: acc).reverse ++ next :: items), rest) := by
          rw [hskip, ih hreadable hback fuel (v :: acc) (by omega)]
      _ = .ok (.arr (acc.reverse ++ v :: next :: items), rest) := by
          rw [List.reverse_cons, List.append_assoc, List.singleton_append]

theorem readValue_bracket {t : Text} (hskip : skipBlanks t = t) (hfirst : t.head? ≠ some 0x5D)
    (fuel : Nat) : readValue limit? (fuel + 1) (0x5B :: t) = readItems limit? fuel [] t := by
  rw [readValue, hskip]
  split
  · exact absurd rfl hfirst
  · rfl

theorem readsBack_arr {items : List Json} (hreadable : ∀ v ∈ items, Readable limit? v)
    (hback : ∀ v ∈ items, ReadsBack limit? v) : ReadsBack limit? (.arr items) := by
  intro fuel rest hfuel _
  obtain ⟨fuel, rfl⟩ := Nat.exists_eq_add_one_of_ne_zero (Nat.ne_zero_of_lt hfuel)
  cases items with
  | nil => rfl
  | cons v items =>
    obtain ⟨c, hc, hblank, hopen⟩ := head?_compact (hreadable v (List.mem_cons_self ..))
    have hhead := head?_join hc (compactAll items) (0x5D :: rest)
    have hskip := skipBlanks_of_head? hhead hblank
    rw [← compactAll] at hskip hhead
    have hfirst : (Text.join [0x2C] (compactAll (v :: items)) ++ 0x5D :: rest).head? ≠
        some 0x5D := by
      rw [hhead]
      exact fun h => hopen (Option.some.inj h)
    rw [compact, List.length_append, List.length_cons, List.length_singleton] at hfuel
    rw [compact, List.append_assoc, List.cons_append, List.singleton_append,
      readValue_bracket hskip hfirst, readItems_compactAll hreadable hback fuel [] rest (by omega)]
    rfl

/-! ## Objects -/

theorem set_of_not_mem {name : Text} {v : Json} {fields : List (Text × Json)}
    (h : name ∉ fields.map Prod.fst) : Assoc.set name v fields = fields ++ [(name, v)] := by
  induction fields with
  | nil => rfl
  | cons field fields ih =>
    rw [List.map_cons, List.mem_cons, not_or] at h
    rw [Assoc.set, if_neg (Ne.symm h.1), ih h.2, List.cons_append]

theorem not_mem_of_nodup {field : Text × Json} {front back : List (Text × Json)}
    (h : ((front ++ field :: back).map Prod.fst).Nodup) : field.1 ∉ front.map Prod.fst := by
  rw [List.map_append, List.map_cons] at h
  exact fun hmem => (List.nodup_append.1 h).2.2 _ hmem _ (List.mem_cons_self ..) rfl

/-- What is read behind a field: the end of the object, or its other fields. -/
def afterField (limit? : Option Nat) (fuel : Nat) (acc : List (Text × Json)) (rest : Text) :
    Except Fault (Json × Text) :=
  match skipBlanks rest with
  | 0x7D :: rest => .ok (.obj acc, rest)
  | 0x2C :: rest => readFields limit? fuel acc (skipBlanks rest)
  | _ => .error .malformed

theorem readFields_field {name : Text} {v : Json} (hname : Utf8.Encodable name)
    (hreadable : Readable limit? v) (hback : ReadsBack limit? v) {fuel : Nat}
    (hfuel : v.compact.length < fuel) (acc : List (Text × Json)) {rest : Text}
    (hrest : EndsNumber rest) :
    readFields limit? (fuel + 1) acc (string name ++ 0x3A :: (v.compact ++ rest)) =
      afterField limit? fuel (Assoc.set name v acc) rest := by
  obtain ⟨c, hc, hblank, -⟩ := head?_compact hreadable
  have hskip : skipBlanks (v.compact ++ rest) = v.compact ++ rest :=
    skipBlanks_of_head? (by rw [List.head?_append, hc, Option.some_or]) hblank
  have hvalue : readValue limit? fuel (skipBlanks (v.compact ++ rest)) = .ok (v, rest) := by
    rw [hskip, hback fuel rest hfuel hrest]
  rw [string, List.cons_append, List.cons_append, List.append_assoc, List.singleton_append,
    readFields, stringBody_string hname]
  dsimp only [List.reverse_nil, List.nil_append]
  rw [skipBlanks_of_head? rfl (by decide)]
  split
  · next heq =>
    obtain ⟨-, rfl⟩ := List.cons.inj heq
    rw [hvalue]
    rfl
  · next hno => exact absurd rfl (hno _)

theorem readFields_compactFields {field : Text × Json} {fields : List (Text × Json)}
    (hnames : ∀ f ∈ field :: fields, Utf8.Encodable f.1)
    (hreadable : ∀ f ∈ field :: fields, Readable limit? f.2)
    (hback : ∀ f ∈ field :: fields, ReadsBack limit? f.2) (fuel : Nat)
    (acc : List (Text × Json)) (hnodup : ((acc ++ field :: fields).map Prod.fst).Nodup)
    (rest : Text) (hfuel : (Text.join [0x2C] (compactFields (field :: fields))).length + 1 < fuel) :
    readFields limit? fuel acc
        (Text.join [0x2C] (compactFields (field :: fields)) ++ 0x7D :: rest) =
      .ok (.obj (acc ++ field :: fields), rest) := by
  induction fields generalizing field acc fuel with
  | nil =>
    obtain ⟨fuel, rfl⟩ := Nat.exists_eq_add_one_of_ne_zero (Nat.ne_zero_of_lt hfuel)
    obtain ⟨name, v⟩ := field
    have hset : Assoc.set name v acc = acc ++ [(name, v)] :=
      set_of_not_mem (not_mem_of_nodup hnodup)
    rw [compactFields, compactFields, join_singleton] at hfuel ⊢
    rw [List.length_append, List.length_cons] at hfuel
    obtain ⟨hname, -⟩ := List.forall_mem_cons.1 hnames
    obtain ⟨hvalue, -⟩ := List.forall_mem_cons.1 hreadable
    obtain ⟨hfirst, -⟩ := List.forall_mem_cons.1 hback
    rw [List.append_assoc, List.cons_append, readFields_field hname hvalue hfirst
      (by dsimp only; omega) acc (endsNumber_cons (by decide) rest), hset]
    rfl
  | cons next fields ih =>
    obtain ⟨fuel, rfl⟩ := Nat.exists_eq_add_one_of_ne_zero (Nat.ne_zero_of_lt hfuel)
    obtain ⟨name, v⟩ := field
    have hset : Assoc.set name v acc = acc ++ [(name, v)] :=
      set_of_not_mem (not_mem_of_nodup hnodup)
    obtain ⟨hname, hnames⟩ := List.forall_mem_cons.1 hnames
    obtain ⟨hvalue, hreadable⟩ := List.forall_mem_cons.1 hreadable
    obtain ⟨hfirst, hback⟩ := List.forall_mem_cons.1 hback
    have hskip : skipBlanks (Text.join [0x2C] (compactFields (next :: fields)) ++ 0x7D :: rest) =
        Text.join [0x2C] (compactFields (next :: fields)) ++ 0x7D :: rest :=
      skipBlanks_of_head? (head?_join (c := 0x22) rfl _ _) (by decide)
    obtain ⟨nextName, nextValue⟩ := next
    rw [compactFields, compactFields, join_cons_cons, ← compactFields] at hfuel ⊢
    simp only [List.length_append, List.length_cons] at hfuel
    calc readFields limit? (fuel + 1) acc _
        = readFields limit? fuel (acc ++ [(name, v)]) (skipBlanks (Text.join [0x2C]
            (compactFields ((nextName, nextValue) :: fields)) ++ 0x7D :: rest)) := by
          rw [List.append_assoc, List.append_assoc, List.cons_append, List.cons_append,
            readFields_field hname hvalue hfirst (by dsimp only; omega) acc
              (endsNumber_cons (by decide) _), hset]
          rfl
      _ = .ok (.obj (acc ++ [(name, v)] ++ (nextName, nextValue) :: fields), rest) := by
          rw [hskip, ih hnames hreadable hback fuel _ (by simpa using hnodup) (by omega)]
      _ = .ok (.obj (acc ++ (name, v) :: (nextName, nextValue) :: fields), rest) := by
          rw [List.append_assoc, List.singleton_append]

theorem readValue_brace {t : Text} (hskip : skipBlanks t = t) (hfirst : t.head? ≠ some 0x7D)
    (fuel : Nat) : readValue limit? (fuel + 1) (0x7B :: t) = readFields limit? fuel [] t := by
  rw [readValue, hskip]
  split
  · exact absurd rfl hfirst
  · rfl

theorem readsBack_obj {fields : List (Text × Json)} (hnodup : (fields.map Prod.fst).Nodup)
    (hnames : ∀ field ∈ fields, Utf8.Encodable field.1)
    (hreadable : ∀ field ∈ fields, Readable limit? field.2)
    (hback : ∀ field ∈ fields, ReadsBack limit? field.2) : ReadsBack limit? (.obj fields) := by
  intro fuel rest hfuel _
  obtain ⟨fuel, rfl⟩ := Nat.exists_eq_add_one_of_ne_zero (Nat.ne_zero_of_lt hfuel)
  cases fields with
  | nil => rfl
  | cons field fields =>
    have hhead : (Text.join [0x2C] (compactFields (field :: fields)) ++ 0x7D :: rest).head? =
        some 0x22 := head?_join rfl _ _
    have hskip := skipBlanks_of_head? hhead (by decide)
    rw [compact, List.length_append, List.length_cons, List.length_singleton] at hfuel
    rw [compact, List.append_assoc, List.cons_append, List.singleton_append,
      readValue_brace hskip (by rw [hhead]; decide),
      readFields_compactFields hnames hreadable hback fuel [] hnodup rest (by omega)]
    rfl

/-! ## Reading what was written -/

/-- A value is read back from its text, whatever follows that is no part of a number. -/
theorem readValue_compact {v : Json} (h : Readable limit? v) : ReadsBack limit? v := by
  induction h with
  | null =>
    intro fuel rest hfuel _
    obtain ⟨fuel, rfl⟩ := Nat.exists_eq_add_one_of_ne_zero (Nat.ne_zero_of_lt hfuel)
    rfl
  | bool b =>
    intro fuel rest hfuel _
    obtain ⟨fuel, rfl⟩ := Nat.exists_eq_add_one_of_ne_zero (Nat.ne_zero_of_lt hfuel)
    cases b <;> rfl
  | int hfits => exact readsBack_int hfits
  | str ht => exact readsBack_str ht
  | arr hreadable hback => exact readsBack_arr hreadable hback
  | obj hnodup hnames hreadable hback => exact readsBack_obj hnodup hnames hreadable hback

/-- A value is read back from its text. -/
theorem parseWithin_compact {v : Json} (h : Readable limit? v) :
    parseWithin limit? v.compact = .ok v := by
  obtain ⟨c, hc, hblank, -⟩ := head?_compact h
  have hread := readValue_compact h (v.compact.length + 1) [] (Nat.lt_succ_self _) nofun
  rw [List.append_nil] at hread
  rw [parseWithin, skipBlanks_of_head? hc hblank, hread]
  rfl

/-- Values that are read back have the same text only if they are the same. -/
theorem compact_inj {v w : Json} (hv : Readable limit? v) (hw : Readable limit? w) :
    v.compact = w.compact ↔ v = w := by
  refine ⟨fun h => ?_, congrArg compact⟩
  have hread := parseWithin_compact hv
  rw [h, parseWithin_compact hw] at hread
  exact (Except.ok.inj hread).symm

end HourlyUsage.Json
