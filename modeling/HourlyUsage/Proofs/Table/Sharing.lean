import HourlyUsage.Proofs.Table.Filters
/-!
# Filters that are shared

A filter can be wrapped more than once and asked by several scans, so its memory can change between
two calls that one scan makes. Here any filters are called in any order. `FilterCall` is one call,
`FilterCall.memory` what is remembered after some of them, and `FilterCall.heard` what a while-match
filter was asked about in all, by whatever filter holds it.

A number identifies a while-match filter: `RowFilter.Identified` says that no two filters of a
collection, nor what they hold inside, have different filters behind one number.

Sources: `RowFilter`, `PrefixFilter` and `WhileMatchFilter`, called in any order.

Hypotheses: a number stands for one while-match filter (`RowFilter.Identified`).

Results:
* `isExhausted_memory`: a filter that is exhausted stays so.
* `accepts_innermost`: no filter accepts what its innermost one rejects.
* `Asked`, `asked_fresh`: what one question about a key does to a while-match filter that has
  rejected nothing.
* `heard_of_fresh`: what a while-match filter answers over any sequence of calls.
* `exhaustion_is_final`: all of this for any filters and any calls.
-/
namespace HourlyUsage

/-- A call of a filter. -/
inductive FilterCall where
  /-- Whether it accepts a row with this key. -/
  | asks (filter : RowFilter) (key : Bytes)
  /-- Whether no later row can pass. -/
  | checks (filter : RowFilter)
  /-- Which key no accepted row reaches. -/
  | bounds (filter : RowFilter)

inductive FilterReply where
  | verdict (yes : Bool)
  | stop (stop? : Option Bytes)
  deriving DecidableEq

namespace RowFilter

/-- The filter that a filter holds at its innermost. -/
def innermost : RowFilter → RowFilter
  | whileMatch _ inner => inner.innermost
  | filter => filter

def parts : RowFilter → List RowFilter
  | whileMatch number inner => whileMatch number inner :: inner.parts
  | filter => [filter]

/-- A number identifies a while-match filter among some filters and all that they hold inside. -/
def Identified (filters : List RowFilter) : Prop :=
  ∀ f ∈ filters, ∀ g ∈ filters, ∀ number inner inner',
    whileMatch number inner ∈ f.parts → whileMatch number inner' ∈ g.parts → inner = inner'

/-- What the while-match filter with a number answers while a filter is asked about a key; `none` if
it is not asked then. -/
def answerOf (number : Nat) (spent : Spent) (key : Bytes) : RowFilter → Option Bool
  | whileMatch n inner =>
    if n = number then some ((whileMatch n inner).accepts spent key).1
    else if n ∈ spent then none
    else inner.answerOf number spent key
  | _ => none

/-- The longest run of keys at the front that the filter accepts if it is asked about one after the
other. -/
def acceptedRun (filter : RowFilter) : Spent → List Bytes → List Bytes
  | _, [] => []
  | spent, key :: rest =>
    match filter.accepts spent key with
    | (true, spent) => key :: filter.acceptedRun spent rest
    | (false, _) => []

end RowFilter

namespace FilterCall

def filter : FilterCall → RowFilter
  | asks filter _ => filter
  | checks filter => filter
  | bounds filter => filter

def isAsk : FilterCall → Bool
  | asks _ _ => true
  | checks _ => false
  | bounds _ => false

def reply (spent : Spent) : FilterCall → FilterReply
  | asks filter key => .verdict (filter.accepts spent key).1
  | checks filter => .verdict (filter.isExhausted spent)
  | bounds filter => .stop filter.stop?

def remember (spent : Spent) : FilterCall → Spent
  | asks filter key => (filter.accepts spent key).2
  | checks _ => spent
  | bounds _ => spent

/-- The memories of filters after some calls. -/
def memory (spent : Spent) (calls : List FilterCall) : Spent := calls.foldl remember spent

def replies : Spent → List FilterCall → List FilterReply
  | _, [] => []
  | spent, call :: rest => call.reply spent :: replies (call.remember spent) rest

/-- What the while-match filter with a number is asked about in a call, and its answer. -/
def told (number : Nat) (spent : Spent) : FilterCall → Option (Bytes × Bool)
  | asks filter key => (filter.answerOf number spent key).map fun answer => (key, answer)
  | checks _ => none
  | bounds _ => none

/-- What the while-match filter with a number is asked about in some calls, and its answers. -/
def heard (number : Nat) : Spent → List FilterCall → List (Bytes × Bool)
  | _, [] => []
  | spent, call :: rest =>
    (call.told number spent).toList ++ heard number (call.remember spent) rest

/-! ## Any filters -/

theorem memory_append (spent : Spent) (calls more : List FilterCall) :
    memory spent (calls ++ more) = memory (memory spent calls) more := List.foldl_append

theorem replies_append (spent : Spent) (calls more : List FilterCall) :
    replies spent (calls ++ more) = replies spent calls ++ replies (memory spent calls) more := by
  induction calls generalizing spent with
  | nil => rfl
  | cons call rest ih => exact congrArg (call.reply spent :: ·) (ih (call.remember spent))

theorem length_replies (spent : Spent) (calls : List FilterCall) :
    (replies spent calls).length = calls.length := by
  induction calls generalizing spent with
  | nil => rfl
  | cons call rest ih => exact congrArg Nat.succ (ih (call.remember spent))

theorem mem_memory {spent : Spent} (calls : List FilterCall) :
    ∀ n ∈ spent, n ∈ memory spent calls := by
  induction calls generalizing spent with
  | nil => exact fun _ hn => hn
  | cons call rest ih =>
    intro n hn
    refine ih n ?_
    cases call with
    | asks filter key => exact filter.mem_accepts key n hn
    | checks _ => exact hn
    | bounds _ => exact hn

/-- A filter that is exhausted stays so, whatever is called. -/
theorem isExhausted_memory {spent : Spent} {filter : RowFilter}
    (h : filter.isExhausted spent = true) (calls : List FilterCall) :
    filter.isExhausted (memory spent calls) = true :=
  RowFilter.isExhausted_mono h (mem_memory calls)

theorem replies_eraseIdx (spent : Spent) (earlier later : List FilterCall) {call : FilterCall}
    (hcall : call.isAsk = false) :
    (replies spent (earlier ++ call :: later)).eraseIdx earlier.length =
      replies spent (earlier ++ later) := by
  have hremember : ∀ spent, call.remember spent = spent := by
    cases call with
    | asks _ _ => cases hcall
    | checks _ => exact fun _ => rfl
    | bounds _ => exact fun _ => rfl
  have hat : (replies spent earlier).length = earlier.length := length_replies spent earlier
  rw [replies_append, replies, hremember, ← hat, List.eraseIdx_append_of_length_le (Nat.le_refl _),
    Nat.sub_self, List.eraseIdx_cons_zero, replies_append]

end FilterCall

namespace RowFilter

theorem accepts_innermost {spent : Spent} {filter : RowFilter} {key : Bytes}
    (h : (filter.accepts spent key).1 = true) : (filter.innermost.accepts spent key).1 = true := by
  induction filter with
  | all => rfl
  | startsWith stem => exact h
  | whileMatch number inner ih =>
    rw [accepts] at h
    split at h
    · cases h
    · cases hinner : inner.accepts spent key with
      | mk accepted later =>
        cases accepted with
        | true => exact ih (congrArg Prod.fst hinner)
        | false => rw [hinner] at h; cases h

/-! ## Numbers and what they identify -/

theorem mem_numbers_iff {n : Nat} {filter : RowFilter} :
    n ∈ filter.numbers ↔ ∃ inner, whileMatch n inner ∈ filter.parts := by
  induction filter with
  | all => simp [numbers, parts]
  | startsWith _ => simp [numbers, parts]
  | whileMatch m inner ih =>
    rw [numbers, parts, List.mem_cons, ih]
    constructor
    · rintro (rfl | ⟨inner', hinner'⟩)
      · exact ⟨inner, List.mem_cons_self ..⟩
      · exact ⟨inner', List.mem_cons_of_mem _ hinner'⟩
    · rintro ⟨inner', hinner'⟩
      rcases List.mem_cons.1 hinner' with heq | hinner'
      · exact .inl (whileMatch.inj heq).1
      · exact .inr ⟨inner', hinner'⟩

theorem length_numbers_of_mem_parts {part filter : RowFilter} (h : part ∈ filter.parts) :
    part.numbers.length ≤ filter.numbers.length := by
  induction filter with
  | all => exact Nat.le_of_eq (by rw [List.mem_singleton.1 h])
  | startsWith _ => exact Nat.le_of_eq (by rw [List.mem_singleton.1 h])
  | whileMatch n inner ih =>
    rcases List.mem_cons.1 h with rfl | h
    · exact Nat.le_refl _
    · exact Nat.le_succ_of_le (ih h)

theorem nodup_of_identified {filter : RowFilter} (h : Identified [filter]) :
    filter.numbers.Nodup := by
  have hsame := h filter (List.mem_singleton_self _) filter (List.mem_singleton_self _)
  clear h
  induction filter with
  | all => exact List.nodup_nil
  | startsWith _ => exact List.nodup_nil
  | whileMatch number inner ih =>
    refine List.nodup_cons.2 ⟨fun hmem => ?_, ih fun n i i' hi hi' =>
      hsame n i i' (List.mem_cons_of_mem _ hi) (List.mem_cons_of_mem _ hi')⟩
    -- The filter would be a part of its own inner filter, which is smaller.
    obtain ⟨inner', hinner'⟩ := mem_numbers_iff.1 hmem
    obtain rfl := hsame number inner' inner (List.mem_cons_of_mem _ hinner') (List.mem_cons_self ..)
    exact absurd (length_numbers_of_mem_parts hinner') (Nat.not_succ_le_self _)

/-- Whether two filters that have one number hold the same filter. -/
def agrees : RowFilter → RowFilter → Bool
  | whileMatch n inner, whileMatch n' inner' => n ≠ n' || inner = inner'
  | _, _ => true

theorem identified_iff (filters : List RowFilter) :
    Identified filters ↔
      ∀ p ∈ filters.flatMap parts, ∀ q ∈ filters.flatMap parts, agrees p q = true := by
  constructor
  · intro h p hp q hq
    obtain ⟨f, hf, hpart⟩ := List.mem_flatMap.1 hp
    obtain ⟨g, hg, hpart'⟩ := List.mem_flatMap.1 hq
    cases p with
    | all => rfl
    | startsWith _ => rfl
    | whileMatch n inner =>
      cases q with
      | all => rfl
      | startsWith _ => rfl
      | whileMatch n' inner' =>
        by_cases hn : n = n'
        · subst hn
          simp [agrees, h f hf g hg n inner inner' hpart hpart']
        · simp [agrees, hn]
  · intro h f hf g hg number inner inner' hinner hinner'
    have hsame := h _ (List.mem_flatMap.2 ⟨f, hf, hinner⟩) _ (List.mem_flatMap.2 ⟨g, hg, hinner'⟩)
    simpa [agrees] using hsame

instance decidableIdentified (filters : List RowFilter) : Decidable (Identified filters) :=
  decidable_of_iff _ (identified_iff filters).symm

theorem Identified.singleton {filters : List RowFilter} (h : Identified filters)
    {filter : RowFilter} (hmem : filter ∈ filters) : Identified [filter] := by
  intro f hf g hg
  rw [List.mem_singleton.1 hf, List.mem_singleton.1 hg]
  exact h filter hmem filter hmem

theorem numbers_subset {number : Nat} {inner filter : RowFilter}
    (h : whileMatch number inner ∈ filter.parts) :
    ∀ n ∈ (whileMatch number inner).numbers, n ∈ filter.numbers := by
  induction filter with
  | all => cases List.mem_singleton.1 h
  | startsWith _ => cases List.mem_singleton.1 h
  | whileMatch m other ih =>
    rcases List.mem_cons.1 h with heq | h
    · exact heq ▸ fun _ hn => hn
    · exact fun n hn => List.mem_cons_of_mem _ (ih h n hn)

/-! ## One while-match filter among others -/

theorem acceptedRun_of_fresh {spent : Spent} {filter : RowFilter} (h : filter.Fresh spent)
    (keys : List Bytes) : filter.acceptedRun spent keys = keys.takeWhile filter.admits := by
  induction keys with
  | nil => rfl
  | cons key rest ih =>
    rw [acceptedRun, accepts_of_fresh h, List.takeWhile_cons]
    cases filter.admits key with
    | true => exact congrArg (key :: ·) ih
    | false => rfl

theorem Fresh.of_subset {spent later : Spent} {filter : RowFilter} (h : filter.Fresh spent)
    (hlater : ∀ n ∈ later, n ∈ spent ∨ n ∉ filter.numbers) : filter.Fresh later :=
  ⟨h.nodup, fun n hn hmem => (hlater n hmem).elim (h.unspent n hn) fun hnot => hnot hn⟩

theorem answerOf_of_not_mem {number : Nat} {filter : RowFilter} (h : number ∉ filter.numbers)
    (spent : Spent) (key : Bytes) : filter.answerOf number spent key = none := by
  induction filter with
  | all => rfl
  | startsWith _ => rfl
  | whileMatch n inner ih =>
    rw [numbers, List.mem_cons, not_or] at h
    rw [answerOf, if_neg (Ne.symm h.1), ih h.2, ite_self]

theorem answerOf_of_spent {number : Nat} {spent : Spent} (hspent : number ∈ spent) (key : Bytes)
    {filter : RowFilter} {answer : Bool} (h : filter.answerOf number spent key = some answer) :
    answer = false := by
  induction filter with
  | all => cases h
  | startsWith _ => cases h
  | whileMatch n inner ih =>
    rw [answerOf] at h
    split at h
    · next hn =>
      rw [accepts, if_pos (hn ▸ hspent)] at h
      exact (Option.some.inj h).symm
    · split at h
      · cases h
      · exact ih h

/-- What a question to `filter` about a key does to a while-match filter that has rejected
nothing. -/
inductive Asked (number : Nat) (inner : RowFilter) (spent : Spent) (key : Bytes)
    (filter : RowFilter) : Prop where
  | notReached (answer : filter.answerOf number spent key = none)
      (fresh : (whileMatch number inner).Fresh (filter.accepts spent key).2)
  | accepted (answer : filter.answerOf number spent key = some true)
      (admits : inner.admits key = true)
      (fresh : (whileMatch number inner).Fresh (filter.accepts spent key).2)
  | rejected (answer : filter.answerOf number spent key = some false)
      (admits : inner.admits key = false) (spends : number ∈ (filter.accepts spent key).2)

/-- A wrapper that holds the filter asks it in turn, and remembers at most its own number. -/
theorem Asked.wrap {number n : Nat} {inner filter : RowFilter} {spent : Spent} {key : Bytes}
    (h : Asked number inner spent key filter) (hne : n ≠ number) (hnot : n ∉ spent)
    (houter : n ∉ (whileMatch number inner).numbers) :
    Asked number inner spent key (whileMatch n filter) := by
  have hanswer : (whileMatch n filter).answerOf number spent key =
      filter.answerOf number spent key := by rw [answerOf, if_neg hne, if_neg hnot]
  have hafter : ((whileMatch n filter).accepts spent key).2 = (filter.accepts spent key).2 ∨
      ((whileMatch n filter).accepts spent key).2 = n :: (filter.accepts spent key).2 := by
    rw [accepts, if_neg hnot]
    dsimp only
    split
    · exact .inl rfl
    · exact .inr rfl
  have hfresh : (whileMatch number inner).Fresh (filter.accepts spent key).2 →
      (whileMatch number inner).Fresh ((whileMatch n filter).accepts spent key).2 := by
    intro hinner
    refine hinner.of_subset fun m hm => ?_
    rcases hafter with heq | heq
    · exact .inl (heq ▸ hm)
    · rcases List.mem_cons.1 (heq ▸ hm) with rfl | hm
      · exact .inr houter
      · exact .inl hm
  cases h with
  | notReached answer fresh => exact .notReached (hanswer.trans answer) (hfresh fresh)
  | accepted answer admits fresh => exact .accepted (hanswer.trans answer) admits (hfresh fresh)
  | rejected answer admits spends =>
    refine .rejected (hanswer.trans answer) admits ?_
    rcases hafter with heq | heq
    · exact heq ▸ spends
    · exact heq ▸ List.mem_cons_of_mem _ spends

/-- The filter, asked about a key, reaches the parts of `inner` through the while-match filter with
the number only. -/
structure Reaches (number : Nat) (inner filter : RowFilter) : Prop where
  identified : ∀ inner', whileMatch number inner' ∈ filter.parts → inner' = inner
  nodup : filter.numbers.Nodup
  through : ∀ n ∈ inner.numbers, n ∈ filter.numbers → number ∈ filter.numbers

theorem asked_of_mem {number : Nat} {inner filter : RowFilter} {spent : Spent}
    (hidentified : ∀ inner', whileMatch number inner' ∈ filter.parts → inner' = inner)
    (hnodup : filter.numbers.Nodup) (hmem : number ∈ filter.numbers)
    (hfresh : (whileMatch number inner).Fresh spent) (key : Bytes) :
    Asked number inner spent key filter := by
  induction filter with
  | all => cases hmem
  | startsWith _ => cases hmem
  | whileMatch n other ih =>
    obtain ⟨hn, hother⟩ := List.nodup_cons.1 hnodup
    by_cases heq : n = number
    · -- The filter itself is asked.
      subst heq
      obtain rfl := hidentified other (List.mem_cons_self ..)
      have hanswer : (whileMatch n other).answerOf n spent key =
          some ((whileMatch n other).accepts spent key).1 := by rw [answerOf, if_pos rfl]
      have haccepts := accepts_of_fresh hfresh key
      cases hadmits : other.admits key with
      | true =>
        rw [admits, hadmits, if_pos rfl] at haccepts
        refine .accepted ?_ hadmits ?_
        · rw [hanswer, haccepts]
        · rw [haccepts]
          exact hfresh
      | false =>
        rw [admits, hadmits, if_neg Bool.false_ne_true] at haccepts
        refine .rejected ?_ hadmits ?_
        · rw [hanswer, haccepts]
        · rw [haccepts]
          exact List.mem_cons_self ..
    · -- A wrapper is asked, and asks what it holds unless it has rejected a key before.
      have hmem' : number ∈ other.numbers :=
        (List.mem_cons.1 hmem).resolve_left fun h => heq h.symm
      by_cases hspent : n ∈ spent
      · have hafter : (whileMatch n other).accepts spent key = (false, spent) := by
          rw [accepts, if_pos hspent]
        refine .notReached ?_ ?_
        · rw [answerOf, if_neg heq, if_pos hspent]
        · rw [hafter]
          exact hfresh
      · have hinner := ih (fun i hi => hidentified i (List.mem_cons_of_mem _ hi)) hother hmem'
        refine hinner.wrap heq hspent fun hheld => hn ?_
        obtain ⟨inner', hinner'⟩ := mem_numbers_iff.1 hmem'
        obtain rfl := hidentified inner' (List.mem_cons_of_mem _ hinner')
        exact numbers_subset hinner' n hheld

/-- What one question does to a while-match filter that has rejected nothing. -/
theorem asked_fresh {number : Nat} {inner filter : RowFilter} {spent : Spent}
    (h : Reaches number inner filter) (hfresh : (whileMatch number inner).Fresh spent)
    (key : Bytes) : Asked number inner spent key filter := by
  by_cases hmem : number ∈ filter.numbers
  · exact asked_of_mem h.identified h.nodup hmem hfresh key
  · refine .notReached (answerOf_of_not_mem hmem spent key) (hfresh.of_subset fun n hn => ?_)
    refine (mem_of_mem_accepts filter key n hn).imp_right fun hown hheld => ?_
    rcases List.mem_cons.1 hheld with rfl | hheld
    · exact hmem hown
    · exact hmem (h.through n hheld hown)

end RowFilter

namespace FilterCall

open RowFilter

theorem heard_cons (number : Nat) (spent : Spent) (call : FilterCall) (rest : List FilterCall) :
    heard number spent (call :: rest) =
      (call.told number spent).toList ++ heard number (call.remember spent) rest := rfl

theorem heard_of_spent {number : Nat} {spent : Spent} (hspent : number ∈ spent)
    (calls : List FilterCall) : ∀ e ∈ heard number spent calls, e.2 = false := by
  induction calls generalizing spent with
  | nil => exact fun _ he => nomatch he
  | cons call rest ih =>
    intro e he
    rcases List.mem_append.1 he with he | he
    · cases call with
      | asks filter key =>
        obtain ⟨answer, hanswer, rfl⟩ := Option.map_eq_some_iff.1 (Option.mem_toList.1 he)
        exact answerOf_of_spent hspent key hanswer
      | checks _ => cases he
      | bounds _ => cases he
    · exact ih (mem_memory [call] number hspent) e he

/-- A while-match filter that has rejected nothing, asked through itself and its wrappers only,
accepts the longest run of keys at the front that its inner filter admits, and no key behind it. -/
theorem heard_of_fresh {number : Nat} {inner : RowFilter} {spent : Spent}
    (hfresh : (whileMatch number inner).Fresh spent) {calls : List FilterCall}
    (hcalls : ∀ filter key, asks filter key ∈ calls → Reaches number inner filter) :
    heard number spent calls =
      (((heard number spent calls).map Prod.fst).takeWhile inner.admits).map
          (fun key => (key, true)) ++
        (((heard number spent calls).map Prod.fst).dropWhile inner.admits).map
          fun key => (key, false) := by
  induction calls generalizing spent with
  | nil => rfl
  | cons call rest ih =>
    have hrest : ∀ filter key, asks filter key ∈ rest → Reaches number inner filter :=
      fun filter key hmem => hcalls filter key (List.mem_cons_of_mem _ hmem)
    cases call with
    | asks filter key =>
      have hreaches := hcalls filter key (List.mem_cons_self ..)
      rw [heard_cons, told, remember]
      cases asked_fresh hreaches hfresh key with
      | notReached answer fresh =>
        rw [answer]
        exact ih fresh hrest
      | accepted answer admits fresh =>
        rw [answer]
        simpa [admits] using ih fresh hrest
      | rejected answer admits spends =>
        have hnone := heard_of_spent spends rest
        rw [answer]
        generalize heard number (filter.accepts spent key).2 rest = later at hnone
        have hlater : (later.map fun e => (e.1, false)) = later :=
          calc later.map (fun e => (e.1, false)) = later.map id :=
                List.map_congr_left fun e he => Prod.ext rfl (hnone e he).symm
            _ = later := List.map_id later
        simpa [admits, Function.comp_def] using hlater.symm
    | checks _ => exact ih hfresh hrest
    | bounds _ => exact ih hfresh hrest

/-- **Exhausted filters stay exhausted.** Filters are called in any order, with what they hold
inside shared in any way; at the beginning none of them has rejected a row. A filter that says that
no later row can pass says so ever after, and accepts no row any more. The calls that are not about
a row change no reply that comes after them. No filter accepts a key that its innermost filter
rejects. A while-match filter whose inner filters are asked through it only accepts, of all the keys
that it is asked about by whatever filter, the longest run at the front that its inner filter would
accept, and rejects the others. -/
theorem exhaustion_is_final {filters : List RowFilter} (hfilters : Identified filters)
    {calls : List FilterCall} (hcalls : ∀ call ∈ calls, call.filter ∈ filters) :
    (∀ earlier middle later filter, calls = earlier ++ middle ++ later →
      (checks filter).reply (memory [] earlier) = .verdict true →
        (checks filter).reply (memory [] (earlier ++ middle)) = .verdict true ∧
        ∀ key, (asks filter key).reply (memory [] (earlier ++ middle)) = .verdict false) ∧
    (∀ earlier call later, calls = earlier ++ call :: later → call.isAsk = false →
      (replies [] calls).eraseIdx earlier.length = replies [] (earlier ++ later)) ∧
    (∀ earlier filter key later, calls = earlier ++ asks filter key :: later →
      (asks filter key).reply (memory [] earlier) = .verdict true →
        (asks filter.innermost key).reply (memory [] earlier) = .verdict true) ∧
    ∀ number inner, whileMatch number inner ∈ filters →
      (∀ filter key, asks filter key ∈ calls →
        ∀ n ∈ inner.numbers, n ∈ filter.numbers → number ∈ filter.numbers) →
      ∃ keys rest, keys = inner.acceptedRun [] (keys ++ rest) ∧
        heard number [] calls =
          keys.map (fun key => (key, true)) ++ rest.map fun key => (key, false) := by
  refine ⟨?_, ?_, ?_, ?_⟩
  · rintro earlier middle later filter - hover
    have hexhausted := isExhausted_memory (FilterReply.verdict.inj hover) middle
    rw [← memory_append] at hexhausted
    refine ⟨congrArg FilterReply.verdict hexhausted, fun key => ?_⟩
    exact congrArg FilterReply.verdict (accepts_of_exhausted hexhausted key)
  · rintro earlier call later rfl hcall
    exact replies_eraseIdx [] earlier later hcall
  · rintro earlier filter key later - haccepts
    exact congrArg FilterReply.verdict (accepts_innermost (FilterReply.verdict.inj haccepts))
  · intro number inner hmem hthrough
    have hnodup := nodup_of_identified (hfilters.singleton hmem)
    have hinner : inner.Fresh [] := ⟨(List.nodup_cons.1 hnodup).2, fun _ _ => List.not_mem_nil⟩
    have hreaches : ∀ filter key, asks filter key ∈ calls → Reaches number inner filter := by
      intro filter key hasked
      have hfilter := hcalls _ hasked
      exact ⟨fun inner' hinner' => hfilters _ hfilter _ hmem number inner' inner hinner'
        (List.mem_cons_self ..), nodup_of_identified (hfilters.singleton hfilter),
        hthrough filter key hasked⟩
    refine ⟨_, _, ?_, heard_of_fresh ⟨hnodup, fun _ _ => List.not_mem_nil⟩ hreaches⟩
    rw [List.takeWhile_append_dropWhile, acceptedRun_of_fresh hinner]

/-- The keys that start with an `a` up to the first other one, as a filter that two others share. -/
def sharedInner : RowFilter := whileMatch 0 (startsWith [0x61])

/-- A filter that holds the shared one, and is held by another one. -/
def sharedOuter : RowFilter := whileMatch 1 sharedInner

def sharedFilters : List RowFilter :=
  [whileMatch 2 sharedOuter, sharedOuter, whileMatch 3 (startsWith [0x62])]

/-- The shared filter is asked through its wrapper and through the wrapper of that, and exhausted by
a key that starts with a `b`. -/
def sharedCalls : List FilterCall :=
  [asks sharedOuter [0x61], asks (whileMatch 3 (startsWith [0x62])) [0x61],
    asks (whileMatch 2 sharedOuter) [0x61, 0x61], checks sharedOuter, asks sharedOuter [0x62],
    bounds sharedOuter, asks sharedOuter [0x61], asks (whileMatch 2 sharedOuter) [0x61]]

/-- The shared filter's wrapper hears of six keys in all, and accepts two. -/
theorem shared_filter_is_exhausted :
    (asks sharedOuter [0x61]).reply (memory [] (sharedCalls.take 5 ++ [bounds sharedOuter])) =
      .verdict false ∧
    ∃ keys rest, keys = sharedInner.acceptedRun [] (keys ++ rest) ∧
      heard 1 [] sharedCalls =
        keys.map (fun key => (key, true)) ++ rest.map fun key => (key, false) := by
  have hcalls : ∀ call ∈ sharedCalls, call.filter ∈ sharedFilters := by decide
  obtain ⟨hfinal, -, -, hrun⟩ := @exhaustion_is_final sharedFilters (by decide) _ hcalls
  refine ⟨(hfinal _ _ (sharedCalls.drop 6) sharedOuter rfl rfl).2 _, ?_⟩
  refine hrun 1 sharedInner (by decide) fun filter key hasked => ?_
  simp only [sharedCalls, List.mem_cons, asks.injEq, reduceCtorEq, List.not_mem_nil, or_false,
    false_or] at hasked
  rcases hasked with ⟨rfl, rfl⟩ | ⟨rfl, rfl⟩ | ⟨rfl, rfl⟩ | ⟨rfl, rfl⟩ | ⟨rfl, rfl⟩ | ⟨rfl, rfl⟩ <;>
    decide

end FilterCall

end HourlyUsage
