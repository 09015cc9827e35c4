import CodeAssistant.Proofs.Json.Reading
import Mathlib.Data.List.Forall2

namespace CodeAssistant
namespace Json

/-!
# Texts that are put together

A text that spells a value by itself spells it inside another text as well.  It is cut into the same
tokens whatever follows it (`cuts_of_tokens?`), and what encloses it is of no concern to the reader
until the value is complete (`State.foldlM_inside`).  So an object may be put together from texts
for its members, and an array from texts for its items, however each of them is written
(`parse?_of_assembles`).
-/

/-! ## Cutting -/

/-- A string that has ended is not changed by what follows it. -/
theorem stringRest_append {before pieces : List Piece} {cs after : List Char}
    (read : stringRest before cs = some (pieces, after)) (more : List Char) :
    stringRest before (cs ++ more) = some (pieces, after ++ more) := by
  fun_induction stringRest before cs with
  | case1 => cases read
  | case2 before rest =>
    cases read
    rfl
  | case3 before a b c d rest code found ih =>
    rw [List.cons_append, List.cons_append, List.cons_append, List.cons_append, List.cons_append,
      List.cons_append, stringRest, found]
    exact ih read
  | case4 => cases read
  | case5 before e rest numeric c found ih =>
    -- What follows cannot turn a short escape into a numeric one.
    have short : e ≠ 'u' := by
      rintro rfl
      cases found
    rw [List.cons_append, List.cons_append, stringRest, found]
    · exact ih read
    · rintro _ _ _ _ _ rfl
      exact absurd rfl short
  | case6 => cases read
  | case7 => cases read
  | case8 before c rest quote numeric escape plain ih =>
    have unescaped : c ≠ '\\' := by
      rintro rfl
      exact plain (by simp)
    rw [List.cons_append, stringRest, if_neg plain]
    · exact ih read
    · exact quote
    · rintro _ _ _ _ _ rfl
      exact absurd rfl unescaped
    · rintro _ _ rfl
      exact absurd rfl unescaped

/-- What does not go on with a character of a word leaves the word before it alone. -/
theorem EndsWord.span_append {rest : List Char} (ends : EndsWord rest) (cs : List Char) :
    (cs ++ rest).takeWhile isWordChar = cs.takeWhile isWordChar ∧
      (cs ++ rest).dropWhile isWordChar = cs.dropWhile isWordChar ++ rest := by
  induction cs with
  | nil =>
    cases rest with
    | nil => exact ⟨rfl, rfl⟩
    | cons c rest => simp [ends c rfl]
  | cons c cs ih =>
    rw [List.cons_append]
    by_cases inside : isWordChar c = true
    · rw [List.takeWhile_cons_of_pos inside, List.takeWhile_cons_of_pos inside,
        List.dropWhile_cons_of_pos inside, List.dropWhile_cons_of_pos inside, ih.1, ih.2]
      exact ⟨rfl, rfl⟩
    · rw [List.takeWhile_cons_of_neg inside, List.takeWhile_cons_of_neg inside,
        List.dropWhile_cons_of_neg inside, List.dropWhile_cons_of_neg inside]
      exact ⟨rfl, rfl⟩

/-- A text that can be cut is cut into the same tokens whatever follows it. -/
theorem cuts_of_tokens? {cs : List Char} {tokens : List Token} (cut : tokens? cs = some tokens) :
    Cuts cs tokens := by
  intro rest ends
  fun_induction tokens? cs generalizing tokens with
  | case1 =>
    rcases Option.some.inj cut with rfl
    simp
  | case2 c more space ih =>
    rw [List.cons_append, tokens?, if_pos space]
    exact ih cut
  | case3 more pieces after found unspaced ih =>
    rcases Option.map_eq_some_iff.mp cut with ⟨tokens, others, rfl⟩
    rw [List.cons_append, tokens?, if_neg unspaced, if_pos rfl]
    have read := stringRest_append found rest
    split
    · next pieces' after' found' =>
      rcases Prod.mk.inj (Option.some.inj (read.symm.trans found')) with ⟨rfl, rfl⟩
      rw [ih others, Option.map_map]
      rfl
    · next refused => cases read.symm.trans refused
  | case4 => cases cut
  | case5 c more unspaced unquoted token mark ih =>
    rcases Option.map_eq_some_iff.mp cut with ⟨tokens, others, rfl⟩
    rw [List.cons_append, tokens?, if_neg unspaced, if_neg unquoted, mark]
    dsimp only
    rw [ih others, Option.map_map]
    rfl
  | case6 c more unspaced unquoted unmarked inside value known ih =>
    rcases Option.map_eq_some_iff.mp cut with ⟨tokens, others, rfl⟩
    rcases ends.span_append more with ⟨word, after⟩
    rw [List.cons_append, tokens?, if_neg unspaced, if_neg unquoted, unmarked]
    dsimp only
    rw [if_pos inside, word, after, known]
    dsimp only
    rw [ih others, Option.map_map]
    rfl
  | case7 => cases cut
  | case8 => cases cut

/-! ## Reading -/

namespace State

/-- The state inside of further brackets. -/
def inside (outer : List Frame) : State → State
  | .wantValue around => .wantValue (around ++ outer)
  | .wantItem around => .wantItem (around ++ outer)
  | .wantFirstKey around => .wantFirstKey (around ++ outer)
  | .wantKey before around => .wantKey before (around ++ outer)
  | .wantColon before key around => .wantColon before key (around ++ outer)
  | .complete value around => .complete value (around ++ outer)

variable {state next : State} {token : Token}

theorem enter_inside {around : List Frame} (entered : enter around token = some next)
    (outer : List Frame) : enter (around ++ outer) token = some (next.inside outer) := by
  unfold enter at entered
  split at entered <;> cases entered <;> rfl

/-- A step does not look at the brackets around those that are open. -/
theorem step_inside (taken : state.step token = some next) (outer : List Frame) :
    (state.inside outer).step token = some (next.inside outer) := by
  cases state with
  | wantValue around => exact enter_inside taken outer
  | wantItem around =>
    have entered (opens : step (.wantItem around) token = enter (.item [] :: around) token) :
        enter (.item [] :: around ++ outer) token = some (next.inside outer) :=
      enter_inside (opens.symm.trans taken) outer
    cases token with
    | closeArray =>
      cases taken
      rfl
    | openArray | openObject | closeObject | comma | colon | scalar | string => exact entered rfl
  | wantFirstKey around => cases token <;> cases taken <;> rfl
  | wantKey before around =>
    cases token <;> cases taken
    rfl
  | wantColon before key around =>
    cases token <;> cases taken
    rfl
  | complete value around =>
    cases around with
    | nil => cases token <;> cases taken
    | cons frame around => cases frame <;> cases token <;> cases taken <;> rfl

theorem foldlM_inside {tokens : List Token} (read : tokens.foldlM step state = some next)
    (outer : List Frame) :
    tokens.foldlM step (state.inside outer) = some (next.inside outer) := by
  induction tokens generalizing state with
  | nil =>
    rcases Option.some.inj read with rfl
    rfl
  | cons token tokens ih =>
    rw [List.foldlM_cons, Option.bind_eq_bind, Option.bind_eq_some_iff] at read
    rcases read with ⟨between, taken, rest⟩
    rw [List.foldlM_cons, step_inside taken outer, Option.bind_eq_bind, Option.bind_some]
    exact ih rest

theorem eq_complete_of_result? {value : Json} (whole : state.result? = some value) :
    state = .complete value [] := by
  unfold result? at whole
  split at whole
  · rw [Option.some.inj whole]
  · cases whole

end State

/-- The text spells the value wherever one is wanted. -/
def Spells (text : String) (value : Json) : Prop :=
  ∃ tokens, Cuts text.toList tokens ∧
    ∀ around, tokens.foldlM State.step (.wantValue around) = some (.complete value around)

theorem spells_of_parse? {text : String} {value : Json} (parsed : parse? text = some value) :
    Spells text value := by
  rw [parse?, Option.bind_eq_some_iff] at parsed
  rcases parsed with ⟨tokens, cut, parsed⟩
  rw [ofTokens?, Option.bind_eq_some_iff] at parsed
  rcases parsed with ⟨last, read, whole⟩
  rw [State.eq_complete_of_result? whole] at read
  refine ⟨tokens, cuts_of_tokens? cut, ?_⟩
  exact fun around => State.foldlM_inside read around

/-! ## Putting together -/

/-- The texts with commas between them. -/
def listing : List String → String
  | [] => ""
  | text :: rest => text ++ (if rest.isEmpty then "" else ",") ++ listing rest

/-- The text of an object, given its keys and the texts of their values. -/
def objectText (members : List (String × String)) : String :=
  "\x7b" ++ listing (members.map fun member => stringLiteral member.1 ++ ":" ++ member.2) ++ "\x7d"

/-- The text of an array, given the texts of its items. -/
def arrayText (items : List String) : String :=
  "[" ++ listing items ++ "]"

/-- The text is put together from texts that spell the parts of the value. -/
inductive Assembles : String → Json → Prop
  | object {texts : List (String × String)} {members : List (String × Json)}
      (spelled : List.Forall₂ (fun text member => text.1 = member.1 ∧
        parse? text.2 = some member.2) texts members) :
      Assembles (objectText texts) (.object members)
  | array {texts : List String} {items : List Json}
      (spelled : List.Forall₂ (fun text item => parse? text = some item) texts items) :
      Assembles (arrayText texts) (.array items)

/-- What is read at one state is read at another where every token does what it does at the one. -/
theorem State.foldlM_of_step {start other last : State} {tokens : List Token}
    (same : ∀ token next, other.step token = some next → start.step token = some next)
    (some_token : tokens ≠ []) (read : tokens.foldlM State.step other = some last) :
    tokens.foldlM State.step start = some last := by
  cases tokens with
  | nil => exact absurd rfl some_token
  | cons token tokens =>
    rw [List.foldlM_cons, Option.bind_eq_bind, Option.bind_eq_some_iff] at read
    rcases read with ⟨between, taken, rest⟩
    rw [List.foldlM_cons, same token between taken, Option.bind_eq_bind, Option.bind_some, rest]

/-- Brackets around parts with commas between them, and what becomes of the reader among them.  The
parts read before, latest first, decide in which state it is ready for a part, when it is done with
one, and when it has passed the closing bracket. -/
structure Enclosure (τ : Type) where
  opening : Char
  closing : Char
  first : Token
  last : Token
  start : State
  ready : List τ → State
  done : τ → List τ → State
  finish : List τ → State
  opens : punctuation? opening = some first
  closes : punctuation? closing = some last
  apart : isWordChar closing = false
  begins : (State.wantValue []).step first = some start
  /-- The first token of a part is taken after the opening bracket as it is after a comma. -/
  starts : ∀ token next, (ready []).step token = some next → start.step token = some next
  further : ∀ part before, (done part before).step .comma = some (ready (part :: before))
  ends : ∀ part before, (done part before).step last = some (finish (part :: before))
  vacant : start.step last = some (finish [])

namespace Enclosure

/-- The items of an array. -/
def items : Enclosure Json where
  opening := '['
  closing := ']'
  first := .openArray
  last := .closeArray
  start := .wantItem []
  ready before := .wantValue [.item before]
  done item before := .complete item [.item before]
  finish before := .complete (.array before.reverse) []
  opens := rfl
  closes := rfl
  apart := by decide
  begins := rfl
  starts token next taken := by
    cases token with
    | closeArray => cases taken
    | openArray | openObject | closeObject | comma | colon | scalar | string => exact taken
  further _ _ := rfl
  ends _ _ := rfl
  vacant := rfl

/-- The members of an object. -/
def members : Enclosure (String × Json) where
  opening := '\x7b'
  closing := '\x7d'
  first := .openObject
  last := .closeObject
  start := .wantFirstKey []
  ready before := .wantKey (some before) []
  done member before := .complete member.2 [.member (some before) (some member.1)]
  finish before := .complete (.object before.reverse) []
  opens := rfl
  closes := rfl
  apart := by decide
  begins := rfl
  starts token next taken := by
    cases token <;> cases taken
    rfl
  further _ _ := rfl
  ends _ _ := rfl
  vacant := rfl

variable {τ : Type} (enclosure : Enclosure τ)

/-- The text is read as the part wherever one is wanted. -/
def Admits (text : String) (part : τ) : Prop :=
  ∃ tokens, Cuts text.toList tokens ∧ ∀ before,
    tokens.foldlM State.step (enclosure.ready before) = some (enclosure.done part before)

/-- Texts between commas are read one after the other. -/
theorem exists_tokens {texts : List String} {parts : List τ}
    (admitted : List.Forall₂ enclosure.Admits texts parts) (some_part : parts ≠ []) :
    ∃ tokens, Cuts (listing texts).toList tokens ∧ ∀ before,
      (tokens ++ [enclosure.last]).foldlM State.step (enclosure.ready before) =
        some (enclosure.finish (parts.reverse ++ before)) := by
  induction admitted with
  | nil => exact absurd rfl some_part
  | @cons text part texts parts first rest ih =>
    rcases first with ⟨tokens, cuts, read⟩
    rw [listing, String.toList_append, String.toList_append, List.append_assoc]
    cases rest with
    | nil =>
      refine ⟨_, cuts.append_separated .nil fun _ => endsWord_nil, ?_⟩
      intro before
      rw [List.isEmpty_nil, if_pos rfl, List.append_nil, List.append_nil, List.foldlM_append, read]
      simp [enclosure.ends]
    | cons second others =>
      rcases ih (List.cons_ne_nil _ _) with ⟨more, cuts', read'⟩
      refine ⟨_, cuts.append_separated cuts' fun last => absurd last Bool.false_ne_true, ?_⟩
      intro before
      rw [List.isEmpty_cons, if_neg (by decide), List.append_assoc, List.append_assoc,
        List.foldlM_append, read, Option.bind_eq_bind, Option.bind_some, List.singleton_append,
        List.foldlM_cons, enclosure.further, Option.bind_eq_bind, Option.bind_some, read']
      simp

theorem parse?_listing {texts : List String} {parts : List τ}
    (admitted : List.Forall₂ enclosure.Admits texts parts) :
    parse? (String.ofList
        (enclosure.opening :: ((listing texts).toList ++ [enclosure.closing]))) =
      (enclosure.finish parts.reverse).result? := by
  have ⟨tokens, cuts, read⟩ : ∃ tokens, Cuts (listing texts).toList tokens ∧
      (tokens ++ [enclosure.last]).foldlM State.step enclosure.start =
        some (enclosure.finish parts.reverse) := by
    cases admitted with
    | nil =>
      refine ⟨[], .nil, ?_⟩
      rw [List.nil_append, List.foldlM_cons, enclosure.vacant]
      rfl
    | cons part others =>
      rcases enclosure.exists_tokens (.cons part others) (List.cons_ne_nil _ _) with
        ⟨tokens, cuts, read⟩
      have begun := read []
      rw [List.append_nil] at begun
      exact ⟨tokens, cuts, State.foldlM_of_step enclosure.starts
        (List.append_ne_nil_of_right_ne_nil _ (List.cons_ne_nil _ _)) begun⟩
  have whole : Cuts (enclosure.opening :: ((listing texts).toList ++ [enclosure.closing]))
      (enclosure.first :: (tokens ++ [enclosure.last])) := by
    refine .cons_punctuation enclosure.opens (cuts.append ?_ (endsWord_cons enclosure.apart _))
    exact .cons_punctuation enclosure.closes .nil
  rw [parse?, String.toList_ofList, whole.tokens?, Option.bind_some, ofTokens?, List.foldlM_cons,
    enclosure.begins, Option.bind_eq_bind, Option.bind_some, read, Option.bind_some]

end Enclosure

/-- A text that is put together spells what its parts do. -/
theorem parse?_of_assembles {text : String} {value : Json} (assembles : Assembles text value) :
    parse? text = some value := by
  cases assembles with
  | @array texts items spelled =>
    have admitted : List.Forall₂ Enclosure.items.Admits texts items := by
      refine spelled.imp fun text item parsed => ?_
      rcases spells_of_parse? parsed with ⟨tokens, cuts, read⟩
      exact ⟨tokens, cuts, fun before => read [.item before]⟩
    have written : arrayText texts = String.ofList ('[' :: ((listing texts).toList ++ [']'])) := by
      rw [← String.toList_inj, String.toList_ofList, arrayText, String.toList_append,
        String.toList_append]
      rfl
    have read := Enclosure.items.parse?_listing admitted
    rw [written, ← List.reverse_reverse items]
    exact read
  | @object texts members spelled =>
    have admitted : List.Forall₂ Enclosure.members.Admits
        (texts.map fun member => stringLiteral member.1 ++ ":" ++ member.2) members := by
      rw [List.forall₂_map_left_iff]
      refine spelled.imp fun text member parsed => ?_
      rcases spells_of_parse? parsed.2 with ⟨tokens, cuts, read⟩
      refine ⟨[.string (some member.1)] ++ .colon :: tokens, ?_, ?_⟩
      · rw [String.toList_append, String.toList_append, List.append_assoc, parsed.1]
        refine (Cuts.string member.1).append (.cons_punctuation rfl cuts) ?_
        exact endsWord_cons (by decide) _
      · intro before
        exact read [.member (some before) (some member.1)]
    have written : objectText texts = String.ofList ('\x7b' :: ((listing (texts.map
        fun member => stringLiteral member.1 ++ ":" ++ member.2)).toList ++ ['\x7d'])) := by
      rw [← String.toList_inj, String.toList_ofList, objectText, String.toList_append,
        String.toList_append]
      rfl
    have read := Enclosure.members.parse?_listing admitted
    rw [written, ← List.reverse_reverse members]
    exact read

end Json
end CodeAssistant
