import Reckon.Loop
import Reckon.Proofs.Cutting
import Reckon.Proofs.Printed

/-!
# The Parts of a Header

A header is read as tokens once, and cut at the semicolons among them. Then each part is
read again, by itself. What a token is depends on what comes before it and on what it sees
behind it, so it has to be shown that a semicolon is to the tokens on both sides of it what
the end of a text and the start of one are: in front of it nothing is found to look at, and
behind it an operand is wanted (`Reader.ReadsAs.cons`, `Loop.divides_of_next?`).

So each part has the tokens that the header has there, and a semicolon in quotes or brackets
divides nothing. The parts joined by semicolons are the header, with one exception.
Exclamation marks are read past in front of a semicolon if they come in pairs, and belong to
the token that the header is cut at, so they are in no part: the parts of `x !!; y; z` are
those of `x ; y; z` (`Loop.splitHeader_of_readAll`).

## Main definitions

* `Reader.Skipped`: Exclamation marks that are read past.
* `Reader.ReadsAs`: The tokens of a text by itself.
* `Loop.Divides`: A semicolon that divides a header.
* `Loop.Division`: The parts of what is left of a header, with the tokens in each.
* `Loop.Divided`: A header and its parts.

## Theorems

* `Reader.divider_of_nextFrom`: What stands in front of a semicolon.
* `Reader.ReadsAs.cons`: A token more in front of a part.
* `Loop.exists_division`: Every header that can be read has parts.
* `Loop.splitHeader_of_readAll`: They are those that it is split into.
-/

namespace Reckon

open Text

namespace Reader

open Lexeme (Parting isSpacing)

variable {source tail : List Char} {offset : Nat}

/-- Exclamation marks that make no difference to the token behind them: in pairs, with
    spacing between and behind them. -/
structure Skipped (marks : List Char) : Prop extends Leftover marks where
  head : ∀ c ∈ marks.head?, c = '!'

/-- The first of the marks in front of a semicolon is not the start of `!=`. -/
theorem Skipped.ne_equals {c : Char} {marks rest : List Char} (h : Skipped (c :: marks))
    (more : List Char) : marks ++ ';' :: rest ≠ '=' :: more := by
  intro heq
  cases marks with
  | nil => cases heq
  | cons d marks =>
      cases heq
      exact absurd (h.chars '=' (List.mem_cons_of_mem c List.mem_cons_self)) (by decide)

/-- The next lexeme in front of a semicolon is a mark, or the semicolon. -/
theorem Skipped.parting {marks : List Char} (h : Skipped marks) (rest : List Char) :
    Parting (marks ++ ';' :: rest) := by
  cases marks with
  | nil =>
      refine ⟨fun c rest' heq => ?_, fun offset => Or.inr ⟨_, Lexeme.next?_of_scan? rfl offset, ?_⟩⟩
      · cases heq
        rfl
      · exact Or.inr ⟨_, rfl⟩
  | cons c marks =>
      cases h.head c rfl
      refine ⟨fun c rest' heq => ?_, fun offset => Or.inr ⟨_, Lexeme.next?_of_scan?
        (Lexeme.scan?_bang h.ne_equals) offset, Or.inl rfl⟩⟩
      cases heq
      rfl

/-- A semicolon that is read as a token, with what stands in front of it. -/
theorem divider_of_nextFrom {wantsOperand negated : Bool} {first : Option Nat}
    {t : Token String} {r : Reader} (h : TailAt source offset tail)
    (hnext : nextFrom wantsOperand negated first offset tail = .ok (some (t, r)))
    (hkind : t.kind = .operator .endOfStatement) :
    ∃ gap marks, tail = gap ++ (marks ++ ';' :: r.tail) ∧ Spacing gap ∧
      (∀ c ∈ marks, c = '!' ∨ isSpacing c = true) ∧
      (Even (marks.count '!') ↔ negated = false) ∧ (∀ c ∈ marks.head?, c = '!') ∧
      t.span.start = first.getD (offset + width gap) := by
  fun_induction nextFrom wantsOperand negated first offset tail with
  | case1 => cases hnext
  | case2 => cases hnext
  | case3 => cases hnext
  | case4 negated first offset tail p hp start hbang ih =>
      rcases Lexeme.exists_lead h hp with ⟨lead, htail, hlead, _, hstart⟩
      rcases ih (Lexeme.stands_of_next? h hp).stop hnext with
        ⟨gap, marks, hrest, hgap, hchars, heven, _, hspan⟩
      have htext : p.text = ['!'] :=
        Lexeme.text_of_mark? (Lexeme.next?_eq_some.mp hp).1 (by rw [hbang]; rfl)
      refine ⟨lead, '!' :: (gap ++ marks), ?_, hlead, ?_, ?_, ?_, ?_⟩
      · rw [htail, htext, hrest]
        simp only [List.cons_append, List.nil_append, List.append_assoc]
      · refine List.forall_mem_cons.mpr ⟨Or.inl rfl, fun c hc => ?_⟩
        rcases List.mem_append.mp hc with hc | hc
        · exact Or.inr (hgap c hc)
        · exact hchars c hc
      · -- One mark more, and the other parity.
        rw [List.count_cons_self, List.count_append, count_of_spacing hgap, Nat.zero_add,
          Nat.even_add_one, heven]
        cases negated <;> decide
      · intro c hc
        cases hc
        rfl
      · rw [hspan, ← hstart]
        rfl
  | case5 => cases hnext
  | case6 => cases hnext
  | case7 negated first offset tail p hp start hbang piece hpiece hnegated =>
      cases hnext
      rcases Lexeme.exists_lead h hp with ⟨lead, htail, hlead, _, hstart⟩
      rcases Token.Piece.text_of_endOfStatement (Lexeme.next?_eq_some.mp hp).1 hpiece hkind with
        ⟨htext, hrest⟩
      rw [htext, ← hrest] at htail
      -- An odd number of marks would have been a fault.
      have hwants : piece.kind.wantsOperand = true := congrArg Token.Kind.wantsOperand hkind
      rw [hwants, Bool.and_true, Bool.not_eq_true] at hnegated
      refine ⟨lead, [], htail, hlead, List.forall_mem_nil _, iff_of_true Even.zero hnegated, ?_, ?_⟩
      · intro c hc
        cases hc
      · rw [← hstart]

/-- By itself, a text has these tokens, wherever it stands up to a place. Further out they
    might be too far out for their spans. -/
def ReadsAs (place : Nat) (wantsOperand : Bool) (part : List Char) (ts : List (Token String)) :
    Prop :=
  ∀ offset, offset ≤ place →
    (∃ leftover, (⟨part, offset, wantsOperand⟩ : Reader).steps.2 = .finished leftover) ∧
      List.Forall₂ Token.Same (⟨part, offset, wantsOperand⟩ : Reader).tokens ts

theorem ReadsAs.of_le {place place' : Nat} {wantsOperand : Bool} {part : List Char}
    {ts : List (Token String)} (h : ReadsAs place wantsOperand part ts) (hle : place' ≤ place) :
    ReadsAs place' wantsOperand part ts :=
  fun offset hoffset => h offset (Nat.le_trans hoffset hle)

/-- A reader that comes to no token comes to none elsewhere. -/
theorem readsAs_nil {r : Reader} (h : r.next? = .ok none) (place : Nat) :
    ReadsAs place r.wantsOperand r.tail [] := by
  intro offset _
  have hsame : Same [] r ⟨r.tail, offset, r.wantsOperand⟩ := ⟨(List.append_nil _).symm, rfl⟩
  have hnone := next?_moved_of_none h hsame
  rw [(tokens_of_none hnone).1]
  exact ⟨⟨_, (tokens_of_none hnone).2⟩, .nil⟩

theorem readsAs_spacing {gap : List Char} (h : Spacing gap) (place : Nat) (wantsOperand : Bool) :
    ReadsAs place wantsOperand gap [] := by
  refine readsAs_nil (r := ⟨gap, 0, wantsOperand⟩) (next?_of_none ?_) place
  rw [wide?, nextFrom_eq, Lexeme.next?_eq_none.mpr h.dropWhile_eq]
  rfl

/-- A token in front of a part that goes on to what parts it from the rest is a token of the
    part. -/
theorem ReadsAs.cons {r r' : Reader} {t : Token String} {ts : List (Token String)}
    {front part e : List Char} (hnext : r.next? = .ok (some (t, r')))
    (hfront : r.tail = front ++ r'.tail) (hpart : r'.tail = part ++ e) (he : Parting e)
    (h : ReadsAs r'.offset r'.wantsOperand part ts) :
    ReadsAs r.offset r.wantsOperand (front ++ part) (t :: ts) := by
  intro offset hle
  -- What comes next behind the token is a token of the part, or its end.
  have hfault : ∀ offset fault, Lexeme.next? offset part ≠ .error fault := by
    rcases (h 0 (Nat.zero_le _)).1 with ⟨leftover, hend⟩
    exact Lexeme.next?_ne_error_of_moved (next?_ne_error_of_finished hend)
  rcases next?_eq_some.mp hnext with ⟨hwide, _, hlimit⟩
  have hstop := (span_of_nextFrom hfront hwide).1
  rw [hpart, ← List.append_assoc] at hfront
  rw [wide?, hfront] at hwide
  rcases nextFrom_of_append he hwide hpart hfault none offset with ⟨t₁, r₁, hwide₁, ht, hr⟩
  have htail : r₁.tail = part := by
    have heq := hr.tail_eq
    rw [hpart, List.append_cancel_right_eq] at heq
    exact heq.symm
  -- The token of the part ends no further out than that of the whole text.
  have hspan := span_of_nextFrom (by rw [htail]) hwide₁
  have hstop₁ : t₁.span.stop ≤ t.span.stop := by
    rw [hspan.1, hstop]
    exact Nat.add_le_add_right hle _
  have hlimit₁ := Nat.le_trans hstop₁ hlimit
  rcases tokens_of_some (r := ⟨front ++ part, offset, r.wantsOperand⟩)
    (next?_of_le hwide₁ (Nat.le_trans hspan.2 hlimit₁) hlimit₁) with ⟨htokens, hending⟩
  have hlater := h r₁.offset (by rwa [offset_of_nextFrom hwide₁, offset_of_nextFrom hwide])
  rw [hr.wantsOperand_eq, ← htail] at hlater
  rw [htokens, hending]
  exact ⟨hlater.1, .cons ht hlater.2⟩

end Reader

namespace Loop

open Reader (Skipped ReadsAs)

variable {source : List Char} {r r' : Reader} {t : Token String}

theorem isDivider_iff : isDivider t = true ↔ t.kind = .operator .endOfStatement := by
  unfold isDivider Token.operator?
  cases t.kind <;> simp [Token.Kind.operator?]

/-- A token that divides a header, the marks it has in front of the semicolon, and the reader
    behind it. -/
structure Divides (source : List Char) (divider : Token String) (marks : List Char)
    (r : Reader) : Prop where
  isDivider : isDivider divider = true
  skipped : Skipped marks
  start : TailAt source divider.span.start (marks ++ ';' :: r.tail)
  stop_eq : divider.span.stop = r.offset
  tail : TailAt source r.offset r.tail
  wantsOperand : r.wantsOperand = true

theorem divides_of_next? (hr : TailAt source r.offset r.tail)
    (hnext : r.next? = .ok (some (t, r'))) (ht : isDivider t = true) :
    ∃ gap marks, r.tail = gap ++ (marks ++ ';' :: r'.tail) ∧ Spacing gap ∧
      Divides source t marks r' := by
  have hkind := isDivider_iff.mp ht
  have hwide := (Reader.next?_eq_some.mp hnext).1
  rcases Reader.divider_of_nextFrom hr hwide hkind with
    ⟨gap, marks, htail, hgap, hchars, heven, hhead, hstart⟩
  rcases Reader.exists_taken_of_nextFrom hr hwide with ⟨_, _, _, _, _, hspan, _⟩
  have hstands := Reader.next?_stands hr
  rw [hnext] at hstands
  -- The marks belong to the divider, so it begins where they do.
  have hplace := hr
  rw [htail] at hplace
  refine ⟨gap, marks, htail, hgap, ht, ⟨⟨hchars, heven.mpr rfl⟩, hhead⟩, ?_, ?_, hstands.2, ?_⟩
  · rw [hstart]
    exact hplace.skip
  · rw [hspan]
  · rw [Reader.wantsOperand_of_nextFrom hwide, hkind]
    rfl

/-- A divider is marked if it has marks in front of its semicolon. -/
theorem Divides.marked_iff {marks : List Char} (h : Divides source t marks r) :
    t.Marked source ↔ marks ≠ [] := by
  have htail {rest : List Char} (hrest : TailAt source t.span.start rest) :
      rest = marks ++ ';' :: r.tail :=
    Option.some.inj (hrest.dropBytes_eq.symm.trans h.start.dropBytes_eq)
  constructor
  · rintro ⟨rest, hrest, _⟩ rfl
    cases htail hrest
  · intro hne
    cases marks with
    | nil => exact absurd rfl hne
    | cons c marks =>
        cases h.skipped.head c rfl
        exact ⟨_, h.start, h.skipped.ne_equals⟩

/-- The parts of what is left of a header, and the tokens that the header has in each. -/
inductive Division (source : List Char) :
    Reader → List (List (Token String)) → List (List Char) → Prop
  | last {r : Reader} : (∀ t ∈ r.tokens, ¬ isDivider t = true) →
      ReadsAs r.offset r.wantsOperand r.tail r.tokens → Division source r [r.tokens] [r.tail]
  | next {r r' : Reader} {divider : Token String} {part marks : List Char}
      {segment : List (Token String)} {segments : List (List (Token String))}
      {parts : List (List Char)} :
      Divides source divider marks r' → r.tokens = segment ++ divider :: r'.tokens →
      (∀ t ∈ segment, ¬ isDivider t = true) → r.tail = part ++ (marks ++ ';' :: r'.tail) →
      ReadsAs r.offset r.wantsOperand part segment → Division source r' segments parts →
      Division source r (segment :: segments) (part :: parts)

/-- A token that does not divide belongs to the first part. -/
theorem Division.cons {segments : List (List (Token String))} {parts : List (List Char)}
    (hnext : r.next? = .ok (some (t, r'))) (ht : ¬ isDivider t = true)
    (h : Division source r' segments parts) :
    ∃ segments parts, Division source r segments parts := by
  rcases Reader.suffix_of_nextFrom (Reader.next?_eq_some.mp hnext).1 with ⟨front, hfront⟩
  have htokens := (Reader.tokens_of_some hnext).1
  cases h with
  | last hseg hreads =>
      -- The part is all that is left, and nothing comes behind it.
      refine ⟨_, _, .last ?_ ?_⟩
      · rw [htokens]
        exact List.forall_mem_cons.mpr ⟨ht, hseg⟩
      · rw [htokens, ← hfront]
        exact hreads.cons hnext hfront.symm (List.append_nil _).symm Lexeme.parting_nil
  | next hdivides hrest hseg htail hreads hlater =>
      -- Only the first part is another one: it starts where the token does.
      have htokens' := htokens
      have htail' := hfront.symm
      rw [hrest, ← List.cons_append] at htokens'
      rw [htail, ← List.append_assoc] at htail'
      exact ⟨_, _, .next hdivides htokens' (List.forall_mem_cons.mpr ⟨ht, hseg⟩) htail'
        (hreads.cons hnext hfront.symm htail (hdivides.skipped.parting _)) hlater⟩

/-- What is left of a header that can be read has parts. -/
theorem exists_division {leftover : Bool} (hr : TailAt source r.offset r.tail)
    (hend : r.steps.2 = .finished leftover) :
    ∃ segments parts, Division source r segments parts := by
  have hstands := Reader.next?_stands hr
  -- The recursion is on the tokens: each is put in front of the parts behind it.
  fun_induction Reader.steps r with
  | case1 => cases hend
  | case2 r hnone =>
      have htokens := (Reader.tokens_of_none hnone).1
      have hreads := Reader.readsAs_nil hnone r.offset
      rw [← htokens] at hreads
      refine ⟨_, _, .last (fun t ht => ?_) hreads⟩
      rw [htokens] at ht
      cases ht
  | case3 r t r' hnext later ending heq ih =>
      rw [hnext] at hstands
      rw [heq] at ih
      rcases ih hstands.2 hend (Reader.next?_stands hstands.2) with ⟨segments, parts, hlater⟩
      by_cases ht : isDivider t = true
      · rcases divides_of_next? hr hnext ht with ⟨gap, marks, htail, hgap, hdivides⟩
        exact ⟨_, _, .next hdivides (Reader.tokens_of_some hnext).1 (List.forall_mem_nil _) htail
          (Reader.readsAs_spacing hgap _ _) hlater⟩
      · exact hlater.cons hnext ht

/-- A header and its parts. In front of the semicolons that divide it, exclamation marks may
    stand that are in no part. -/
inductive Divided : List Char → List (List Char) → Prop
  | last (part : List Char) : Divided part [part]
  | next {part marks rest : List Char} {parts : List (List Char)} :
      Skipped marks → Divided rest parts →
      Divided (part ++ (marks ++ ';' :: rest)) (part :: parts)

theorem Divided.ne_nil {text : List Char} {parts : List (List Char)} (h : Divided text parts) :
    parts ≠ [] := by
  cases h <;> exact List.cons_ne_nil _ _

/-- With semicolons between them, the parts are no longer than the header. -/
theorem Divided.length_le {text : List Char} {parts : List (List Char)} (h : Divided text parts) :
    ([';'].intercalate parts).length ≤ text.length := by
  induction h with
  | last part => rw [List.intercalate_singleton]
  | next _ hrest ih =>
      rcases List.exists_cons_of_ne_nil hrest.ne_nil with ⟨part', parts', rfl⟩
      rw [List.intercalate_cons_cons]
      simp only [List.length_append, List.length_cons, List.length_nil]
      omega

namespace Division

variable {segments : List (List (Token String))} {parts : List (List Char)}

theorem splitOnP_eq (h : Division source r segments parts) :
    r.tokens.splitOnP isDivider = segments := by
  induction h with
  | last hseg =>
      exact List.splitOnP_eq_singleton fun t ht => Bool.eq_false_iff.mpr (hseg t ht)
  | next hdivides htokens hseg _ _ _ ih =>
      rw [htokens, List.splitOnP_append_cons_of_forall_mem
        (fun t ht => Bool.eq_false_iff.mpr (hseg t ht)) _ hdivides.isDivider, ih]

theorem length_eq (h : Division source r segments parts) :
    parts.length = r.tokens.countP isDivider + 1 := by
  induction h with
  | last hseg => rw [List.countP_eq_zero.mpr hseg, List.length_singleton]
  | next hdivides htokens hseg _ _ _ ih =>
      rw [htokens, List.countP_append, List.countP_eq_zero.mpr hseg,
        List.countP_cons_of_pos hdivides.isDivider, List.length_cons, ih, Nat.zero_add]

/-- Cutting at the dividers gives the parts. -/
theorem cutAt_eq (h : Division source r segments parts) (hr : TailAt source r.offset r.tail) :
    cutAt source r.offset ((r.tokens.filter isDivider).map Token.span) = parts := by
  induction h with
  | last hseg =>
      rw [List.filter_eq_nil_iff.mpr hseg, List.map_nil, cutAt, hr.dropBytes_eq, Option.getD_some]
  | next hdivides htokens hseg htail _ _ ih =>
      have hslice := hr.dropBytes_eq
      rw [htokens, List.filter_append, List.filter_eq_nil_iff.mpr hseg, List.nil_append,
        List.filter_cons_of_pos hdivides.isDivider, List.map_cons, cutAt, hdivides.stop_eq,
        ih hdivides.tail, slice, hslice, hdivides.start.dropBytes_eq]
      simp only [htail, upTo_append_self]

theorem divided (h : Division source r segments parts) : Divided r.tail parts := by
  induction h with
  | last => exact .last _
  | next hdivides _ _ htail _ _ ih =>
      rw [htail]
      exact .next hdivides.skipped ih

/-- Each part has the tokens of its segment. -/
theorem readsAs (h : Division source r segments parts) (hr : r.wantsOperand = true) :
    List.Forall₂ (fun segment part => ReadsAs 0 true part segment) segments parts := by
  induction h with
  | last _ hreads =>
      rw [hr] at hreads
      exact .cons (hreads.of_le (Nat.zero_le _)) .nil
  | next hdivides _ _ _ hreads _ ih =>
      rw [hr] at hreads
      exact .cons (hreads.of_le (Nat.zero_le _)) (ih hdivides.wantsOperand)

/-- The parts make up the header unless one of its dividers is marked. -/
theorem intercalate_eq_iff (h : Division source r segments parts) :
    [';'].intercalate parts = r.tail ↔
      ∀ t ∈ r.tokens, isDivider t = true → ¬ t.Marked source := by
  induction h with
  | last hseg =>
      rw [List.intercalate_singleton]
      exact iff_of_true rfl fun t ht hdivider => absurd hdivider (hseg t ht)
  | @next r r' divider part marks segment segments parts hdivides htokens hseg htail _ hlater ih =>
      have hle := hlater.divided.length_le
      rcases List.exists_cons_of_ne_nil hlater.divided.ne_nil with ⟨part', parts', rfl⟩
      have hmarked : ¬ divider.Marked source ↔ marks = [] := by
        rw [hdivides.marked_iff, not_not]
      have hdividers : (∀ t ∈ r.tokens, isDivider t = true → ¬ t.Marked source) ↔
          marks = [] ∧ ∀ t ∈ r'.tokens, isDivider t = true → ¬ t.Marked source := by
        rw [htokens, List.forall_mem_append, List.forall_mem_cons, ← hmarked]
        exact ⟨fun h => ⟨h.2.1 hdivides.isDivider, h.2.2⟩,
          fun h => ⟨fun t ht hdivider => absurd hdivider (hseg t ht), fun _ => h.1, h.2⟩⟩
      rw [hdividers, ← ih, List.intercalate_cons_cons, htail, List.append_assoc,
        List.append_cancel_left_eq]
      constructor
      · intro heq
        -- Marks would make the header longer than what is joined.
        have hlength := congrArg List.length heq
        simp only [List.length_append, List.length_cons, List.length_nil] at hlength
        have hnil : marks = [] := List.eq_nil_of_length_eq_zero (by omega)
        rw [hnil] at heq
        exact ⟨hnil, (List.cons.inj heq).2⟩
      · rintro ⟨rfl, heq⟩
        rw [heq]
        rfl

end Division

/-- A header that can be read has one part more than it has semicolons among its tokens. By
    itself, each part is read as the tokens between two of them. The parts make up the header
    but for marks in front of these semicolons, and with semicolons between them they are the
    header if and only if none of these semicolons is marked. -/
theorem splitHeader_of_readAll {header : String} {ts : List (Token String)}
    (h : Token.readAll? header = .ok ts) :
    ∃ parts, splitHeader header = .ok parts ∧ parts.length = ts.countP isDivider + 1 ∧
      List.Forall₂ (fun segment part => ∃ ts', Token.readAll? part = .ok ts' ∧
        List.Forall₂ Token.Same ts' segment) (ts.splitOnP isDivider) parts ∧
      Divided header.toList (parts.map String.toList) ∧
      (";".intercalate parts = header ↔
        ∀ t ∈ ts, isDivider t = true → ¬ t.Marked header.toList) := by
  rcases Token.readAll?_eq_ok_iff.mp h with ⟨rfl, leftover, hending⟩
  have hstart : TailAt header.toList 0 header.toList := tailAt_zero _
  -- One division of the text gives all clauses: where it is cut, how many parts there are,
  -- and what each of them reads as.
  rcases exists_division (r := Reader.start header.toList) hstart hending with
    ⟨segments, parts, hdivision⟩
  have hparts : (parts.map String.ofList).map String.toList = parts := by
    rw [List.map_map]
    exact List.map_id'' (fun part => String.toList_ofList) parts
  refine ⟨parts.map String.ofList, ?_, ?_, ?_, ?_, ?_⟩
  · have hcut := congrArg (List.map String.ofList) (hdivision.cutAt_eq hstart)
    rw [splitHeader, h]
    exact congrArg Except.ok hcut
  · rw [List.length_map, hdivision.length_eq]
  · rw [hdivision.splitOnP_eq, List.forall₂_map_right_iff]
    refine (hdivision.readsAs rfl).imp fun segment part hreads => ?_
    rcases hreads 0 (Nat.le_refl 0) with ⟨hend, hsame⟩
    refine ⟨_, Token.readAll?_eq_ok_iff.mpr ⟨rfl, ?_⟩, ?_⟩ <;> rw [String.toList_ofList]
    · exact hend
    · exact hsame
  · rw [hparts]
    exact hdivision.divided
  · rw [← hdivision.intercalate_eq_iff, ← String.toList_inj, String.toList_intercalate, hparts]
    rfl

/-- The header `x = '; '; (0; x) !!; x` has three parts, as the semicolons in quotes and in
    parentheses divide nothing. The marks in front of the second divider are in none of them. -/
theorem splitHeader_of_readAll_marked :
    ∃ ts, Token.readAll? "x = '; '; (0; x) !!; x" = .ok ts ∧
      splitHeader "x = '; '; (0; x) !!; x" = .ok ["x = '; '", " (0; x) ", " x"] ∧
      ts.countP isDivider = 2 ∧
      Divided "x = '; '; (0; x) !!; x".toList ["x = '; '".toList, " (0; x) ".toList, " x".toList] ∧
      ";".intercalate ["x = '; '", " (0; x) ", " x"] ≠ "x = '; '; (0; x) !!; x" := by
  have hread : Token.readAll? "x = '; '; (0; x) !!; x" = .ok
      [⟨.assign "x", ⟨0, 3⟩, false⟩, ⟨.operand (.literal (.str "; ")), ⟨4, 8⟩, false⟩,
        ⟨.operator .endOfStatement, ⟨8, 9⟩, false⟩, ⟨.operand (.group "0; x"), ⟨10, 16⟩, false⟩,
        ⟨.operator .endOfStatement, ⟨17, 20⟩, false⟩,
        ⟨.operand (.identifier "x"), ⟨21, 22⟩, false⟩] := by
    rw [Token.readAll?, Token.read_eq 23 (by decide)]
    with_unfolding_all rfl
  have hparts : splitHeader "x = '; '; (0; x) !!; x" = .ok ["x = '; '", " (0; x) ", " x"] := by
    rw [splitHeader, hread]
    with_unfolding_all rfl
  rcases splitHeader_of_readAll hread with ⟨parts, hsplit, _, _, hdivided, hjoined⟩
  cases hparts.symm.trans hsplit
  refine ⟨_, hread, hparts, rfl, hdivided, fun heq => ?_⟩
  -- The second divider starts with its first mark.
  refine hjoined.mp heq ⟨.operator .endOfStatement, ⟨17, 20⟩, false⟩ (by simp) rfl ?_
  exact ⟨"!; x".toList, ⟨"x = '; '; (0; x) ".toList, rfl, rfl⟩, fun more h => by cases h⟩

end Loop

end Reckon
