import Reckon.Proofs.Bracketed
import Reckon.Proofs.Joining
import Reckon.Proofs.Trimming

/-!
# Texts that Read to their End

Reading a text as tokens and scanning it for the closer of a bracket are two
things: the scanner knows nothing of words and numbers, and a backslash means more
to it in front of the end of a line. They agree on every text that reads to its
end. What a token takes of the text closes the brackets that it opens, and its
quoted texts end in it, so the whole text is level (`Token.level_of_finished`). If
it stands in brackets, the closer that is found is the one behind it.

Trimming and reading do not agree on what is blank either. Many characters are
blank that may not stand between lexemes. Where a text reads to its end, however,
every blank at its edges is one that may: a lexeme starts with no blank, and what
a token takes ends with none (`Text.Solid`). So what trimming takes off is spacing
(`Token.spacing_leading`, `Token.spacing_trailing`).

## Main definitions

* `Text.isBare`: Characters of lexemes that are neither quoted nor brackets.
* `Text.Solid`: A level text that does not end with a blank.
* `Token.Piece.Takes`: What a piece takes of its text.

## Theorems

* `Lexeme.solid_of_scan?`: A lexeme is solid, unless it is a bracket.
* `Token.Piece.takes_of`: What starts with a lexeme takes a solid text.
* `Reader.solid_of_finished`: What is read of a text to its end.
* `Token.level_of_finished`: Brackets and quotes in it.
* `Token.spacing_leading`, `Token.spacing_trailing`: The blanks at its edges.
-/

namespace Reckon

open Text

namespace Text

/-- A character of a lexeme that is neither quoted nor a bracket. -/
def isBare (c : Char) : Bool := isPlain c && !isBlank c

/-- A level text that does not end with a blank. -/
structure Solid (cs : List Char) : Prop where
  level : Level cs
  last : ∀ c ∈ cs.getLast?, isBlank c = false

section Solid

variable {as bs cs : List Char}

theorem solid_nil : Solid [] :=
  ⟨level_nil, nofun⟩

theorem Solid.append (has : Solid as) (hbs : Solid bs) : Solid (as ++ bs) := by
  refine ⟨has.level.append hbs.level, fun c hc => ?_⟩
  rw [List.getLast?_append] at hc
  cases hlast : bs.getLast? with
  | none =>
      rw [hlast] at hc
      exact has.last c hc
  | some d =>
      rw [hlast] at hc
      exact hbs.last c (hlast ▸ hc)

theorem solid_of_bare (h : ∀ c ∈ cs, isBare c = true) : Solid cs := by
  have hbare : ∀ c ∈ cs, isPlain c = true ∧ isBlank c = false := by
    intro c hc
    have hc := h c hc
    rwa [isBare, Bool.and_eq_true, Bool.not_eq_true'] at hc
  exact ⟨level_of_plain fun c hc => (hbare c hc).1,
    fun c hc => (hbare c (List.mem_of_getLast? hc)).2⟩

/-- Spacing in front of a solid text, if there is one. -/
theorem Solid.behind (hbs : Solid bs) (hne : bs ≠ []) (has : Spacing as) : Solid (as ++ bs) := by
  have hplain : ∀ c ∈ as, isPlain c = true := fun c hc => isPlain_of_isSpacing (has c hc)
  refine ⟨(level_of_plain hplain).append hbs.level, fun c hc => ?_⟩
  rw [List.getLast?_append_of_ne_nil as hne] at hc
  exact hbs.last c hc

/-- A level text that ends with a quote or a bracket. -/
theorem Level.solid_concat {c : Char} (h : Level (cs ++ [c])) (hc : isPlain c = false) :
    Solid (cs ++ [c]) := by
  refine ⟨h, fun d hd => ?_⟩
  rw [List.getLast?_concat, Option.mem_some_iff] at hd
  subst hd
  rw [Bool.eq_false_iff]
  intro hblank
  rw [isPlain_of_isBlank hblank] at hc
  cases hc

/-- A level text in brackets. -/
theorem Level.solid {opener closer : Char} (h : Level cs) (hopener : isOpener opener = true)
    (hcloser : isCloser closer = true) : Solid (opener :: cs ++ [closer]) :=
  (h.bracketed hopener hcloser).solid_concat (isPlain_of_isCloser hcloser)

/-- A quoted text. -/
theorem solid_quoted {quote : Char} {front : List Char} (hquote : isQuote quote = true)
    (hfront : ∀ rest, afterQuoted quote (front ++ quote :: rest) = some rest) :
    Solid (quote :: front ++ [quote]) := by
  have hlevel : Level (quote :: front ++ [quote]) := (closes_quote hquote hfront).mpr level_nil
  exact hlevel.solid_concat (isPlain_of_isQuote hquote)

end Solid

end Text

namespace Lexeme

theorem isBare_of_isNameChar {c : Char} (h : isNameChar c = true) : isBare c = true := by
  rw [isBare, Bool.and_eq_true, Bool.not_eq_true', Bool.eq_false_iff]
  refine ⟨isPlain_of_not (fun hc => ?_) (fun hc => ?_) (fun hc => ?_), fun hc => ?_⟩
  · simp only [isQuote, Bool.or_eq_true, beq_iff_eq] at hc
    rcases hc with rfl | rfl <;> cases h
  · simp only [isOpener, Bool.or_eq_true, beq_iff_eq] at hc
    rcases hc with (rfl | rfl) | rfl <;> cases h
  · simp only [isCloser, Bool.or_eq_true, beq_iff_eq] at hc
    rcases hc with (rfl | rfl) | rfl <;> cases h
  · rw [isNameChar, isNameStart_of_isBlank hc, isDigit_of_isBlank hc] at h
    cases h

theorem isBare_of_isDigit {c : Char} (h : c.isDigit = true) : isBare c = true :=
  isBare_of_isNameChar (by rw [isNameChar, h, Bool.or_true])

theorem le_pathLength (n : Nat) (cs : List Char) : n ≤ pathLength n cs := by
  fun_induction pathLength n cs with
  | case1 => exact Nat.le_refl _
  | case2 _ _ _ _ ih => exact Nat.le_trans (Nat.le_add_right _ 2) ih
  | case3 => exact Nat.le_refl _
  | case4 _ _ _ _ _ ih => exact Nat.le_trans (Nat.le_add_right _ 1) ih
  | case5 => exact Nat.le_refl _

/-- The characters that a path goes on with. -/
theorem isBare_of_mem_path {n : Nat} {cs : List Char} {c : Char}
    (h : c ∈ cs.take (pathLength n cs - n)) : isBare c = true := by
  -- The length grows by two at a point with a name behind it and by one inside a name.
  fun_induction pathLength n cs with
  | case1 n =>
      rw [List.take_nil] at h
      cases h
  | case2 n d cs hname ih =>
      have hle := le_pathLength (n + 2) cs
      rw [show pathLength (n + 2) cs - n = pathLength (n + 2) cs - (n + 2) + 1 + 1 by omega,
        List.take_succ_cons, List.take_succ_cons] at h
      rcases List.mem_cons.mp h with rfl | h
      · rfl
      · rcases List.mem_cons.mp h with rfl | h
        · exact isBare_of_isNameChar (by rw [isNameChar, hname, Bool.true_or])
        · exact ih h
  | case3 n d cs hname =>
      rw [Nat.sub_self] at h
      cases h
  | case4 n d cs hpoint hname ih =>
      have hle := le_pathLength (n + 1) cs
      rw [show pathLength (n + 1) cs - n = pathLength (n + 1) cs - (n + 1) + 1 by omega,
        List.take_succ_cons] at h
      rcases List.mem_cons.mp h with rfl | h
      · exact isBare_of_isNameChar hname
      · exact ih h
  | case5 n d cs hpoint hname =>
      rw [Nat.sub_self] at h
      cases h

theorem isBare_of_mem_digits {cs : List Char} {c : Char} (h : c ∈ cs.takeWhile Char.isDigit) :
    isBare c = true :=
  isBare_of_isDigit (List.mem_takeWhile_imp h)

/-- The characters that a number goes on with. -/
theorem isBare_of_mem_number {cs : List Char} {c : Char} (h : c ∈ cs.take (numberLength cs).2) :
    isBare c = true := by
  have hdigits (cs : List Char) :
      cs.take (cs.takeWhile Char.isDigit).length = cs.takeWhile Char.isDigit :=
    (List.prefix_iff_eq_take.mp (List.takeWhile_prefix _)).symm
  unfold numberLength at h
  simp only at h
  split at h
  next d tail hdrop =>
    split at h
    next hd =>
      -- Behind the digits come the point, a digit and more digits.
      rw [Nat.add_assoc, List.take_add, hdigits, hdrop, Nat.add_comm 2, List.take_succ_cons,
        List.take_succ_cons] at h
      rcases List.mem_append.mp h with h | h
      · exact isBare_of_mem_digits h
      · rcases List.mem_cons.mp h with rfl | h
        · rfl
        · rcases List.mem_cons.mp h with rfl | h
          · exact isBare_of_isDigit hd
          · rw [hdigits] at h
            exact isBare_of_mem_digits h
    next =>
      rw [hdigits] at h
      exact isBare_of_mem_digits h
  next =>
    rw [hdigits] at h
    exact isBare_of_mem_digits h

/-- The lexemes that are brackets. -/
def isBracket : Lexeme → Bool
  | openParen | closeParen | openBracket | closeBracket => true
  | _ => false

theorem solid_of_symbol? {cs : List Char} {lexeme : Lexeme} {n : Nat}
    (h : symbol? cs = some (lexeme, n)) (hlexeme : lexeme.isBracket = false) :
    Solid (cs.take n) := by
  refine solid_of_bare (List.all_eq_true.mp ?_)
  unfold symbol? at h
  split at h
  case h_28 | h_29 | h_30 | h_31 =>
    cases h
    cases hlexeme
  case h_33 => cases h
  all_goals
    cases h
    rfl

/-- A lexeme is solid, unless it is a bracket. -/
theorem solid_of_scan? {cs text tail : List Char} {lexeme : Lexeme}
    (h : scan? cs = some (lexeme, text, tail)) (hlexeme : lexeme.isBracket = false) :
    Solid text := by
  rcases exists_scans h with ⟨c, rest, rfl, hscans⟩
  -- A lexeme is bare, or quoted, or one of the signs; brackets are left to their closers.
  cases hscans with
  | word hname =>
      refine solid_of_bare (List.forall_mem_cons.mpr ⟨isBare_of_isNameChar ?_, fun c hc => ?_⟩)
      · rw [isNameChar, hname, Bool.true_or]
      · exact isBare_of_mem_path (n := 0) hc
  | number hdigit =>
      exact solid_of_bare (List.forall_mem_cons.mpr ⟨isBare_of_isDigit hdigit,
        fun c => isBare_of_mem_number⟩)
  | quoted hquote hafter =>
      rcases afterQuote_eq_some_of_imp (fun _ _ => rfl) hafter with ⟨front, rfl, hfront⟩
      rw [List.append_cons, upTo_append_self]
      exact solid_quoted hquote hfront
  | symbol hsymbol => exact solid_of_symbol? hsymbol hlexeme

theorem solid_of_next? {offset : Nat} {cs : List Char} {p : Placed}
    (h : next? offset cs = .ok (some p)) (hlexeme : p.lexeme.isBracket = false) : Solid p.text :=
  solid_of_scan? (next?_eq_some.mp h).1 hlexeme

/-- The next lexeme of a text stands behind spacing, and is not empty. -/
theorem exists_spacing_of_next? {offset : Nat} {cs : List Char} {p : Placed}
    (h : next? offset cs = .ok (some p)) :
    ∃ lead, cs = lead ++ (p.text ++ p.tail) ∧ Spacing lead ∧ p.text ≠ [] := by
  have hscan := (next?_eq_some.mp h).1
  have hbody := append_of_scan? hscan
  refine ⟨cs.takeWhile isSpacing, ?_, fun _ => List.mem_takeWhile_imp, fun hempty => ?_⟩
  · rw [hbody, List.takeWhile_append_dropWhile]
  · have hlt := length_scan?_lt hscan
    rw [← hbody, hempty] at hlt
    exact Nat.lt_irrefl _ hlt

theorem next?_of_peek? {offset : Nat} {cs : List Char} {p : Placed}
    (h : peek? offset cs = some p) : next? offset cs = .ok (some p) := by
  unfold peek? at h
  split at h
  next found hnext => rw [hnext, h]
  next => cases h

end Lexeme

namespace Token.Piece

open Lexeme (Placed)

/-- The piece that starts with the lexeme `p` takes a solid text. -/
def Takes (p : Placed) (piece : Piece) : Prop :=
  ∃ more, p.tail = more ++ piece.tail ∧ Solid (p.text ++ more)

variable {p q : Placed} {offset : Nat} {cs : List Char}

/-- A piece that ends with its first lexeme. -/
theorem takes_ofPlaced (hp : Solid p.text) (kind : Kind String) : Takes p (ofPlaced p kind) :=
  ⟨[], rfl, by rwa [List.append_nil]⟩

/-- A piece that ends with the lexeme after its first one. -/
theorem takes_ofPlaced_peek (hp : Solid p.text) (hq : Lexeme.peek? p.stop p.tail = some q)
    (hlexeme : q.lexeme.isBracket = false) (kind : Kind String) : Takes p (ofPlaced q kind) := by
  have hnext := Lexeme.next?_of_peek? hq
  rcases Lexeme.exists_spacing_of_next? hnext with ⟨lead, htail, hlead, hne⟩
  refine ⟨lead ++ q.text, ?_, hp.append ((Lexeme.solid_of_next? hnext hlexeme).behind hne hlead)⟩
  rw [htail, List.append_assoc]
  rfl

theorem takes_ofPath (hp : Solid p.text) : Takes p (ofPath p) := by
  unfold ofPath
  simp only
  split
  · exact takes_ofPlaced hp _
  · split
    next q hq =>
      rcases Option.filter_eq_some_iff.mp hq with ⟨hpeek, hequals⟩
      rw [beq_iff_eq] at hequals
      exact takes_ofPlaced_peek hp hpeek (by rw [hequals]; rfl) _
    next =>
      split
      · exact takes_ofPlaced hp _
      · split <;> exact takes_ofPlaced hp _

theorem takes_ofMinus (hp : Solid p.text) (wantsOperand : Bool) :
    Takes p (ofMinus p wantsOperand) := by
  unfold ofMinus
  split
  next q hq =>
    rcases Option.filter_eq_some_iff.mp hq with ⟨hpeek, hnumber⟩
    refine takes_ofPlaced_peek hp hpeek ?_ _
    simp only [Bool.and_eq_true, Bool.or_eq_true, beq_iff_eq] at hnumber
    rcases hnumber.2 with hlexeme | hlexeme <;> rw [hlexeme] <;> rfl
  next => exact takes_ofPlaced hp _

theorem takes_ofBracket {opener closer : Char} {kind : List Char → Kind String} {piece : Piece}
    (hp : p.text = [opener]) (hopener : isOpener opener = true)
    (h : ofBracket p opener closer kind = .ok piece) : Takes p piece := by
  rcases exists_inside h with ⟨inside, after, htail, hclose, hlevel, rfl⟩
  refine ⟨inside ++ [closer], ?_, ?_⟩
  · rw [htail, List.append_assoc]
    rfl
  · rw [hp]
    exact hlevel.solid hopener hclose

/-- What starts with a lexeme takes a solid text. -/
theorem takes_of {wantsOperand : Bool} {piece : Piece}
    (hp : Lexeme.next? offset cs = .ok (some p)) (h : of p wantsOperand = .ok piece) :
    Takes p piece := by
  have hscan := (Lexeme.next?_eq_some.mp hp).1
  have hsolid := Lexeme.solid_of_next? hp
  unfold of at h
  -- Brackets take what they enclose, paths and minus signs may take the next lexeme, and
  -- all other pieces are the lexeme alone.
  split at h
  case h_10 hlexeme =>
    exact takes_ofBracket (Lexeme.text_of_mark? hscan (by rw [hlexeme]; rfl)) rfl h
  case h_11 hlexeme =>
    exact takes_ofBracket (Lexeme.text_of_mark? hscan (by rw [hlexeme]; rfl)) rfl h
  case h_12 | h_13 | h_14 | h_15 | h_16 => cases h
  case h_7 hlexeme =>
    cases h
    exact takes_ofPath (hsolid (by rw [hlexeme]; rfl))
  case h_8 hlexeme =>
    cases h
    exact takes_ofMinus (hsolid (by rw [hlexeme]; rfl)) wantsOperand
  all_goals
    rename_i hlexeme
    cases h
    exact takes_ofPlaced (hsolid (by rw [hlexeme]; rfl)) _

end Token.Piece

namespace Reader

/-- What is read of the next token, with the spacing before it, is solid. -/
theorem solid_of_nextFrom {wantsOperand negated : Bool} {first : Option Nat} {offset : Nat}
    {tail : List Char} {t : Token String} {r : Reader}
    (h : nextFrom wantsOperand negated first offset tail = .ok (some (t, r))) :
    ∃ front, tail = front ++ r.tail ∧ Solid front := by
  -- What is taken grows by the spacing in front of a lexeme and the lexeme itself.
  fun_induction nextFrom wantsOperand negated first offset tail with
  | case1 => cases h
  | case2 => cases h
  | case3 => cases h
  | case4 negated first offset tail p hp start hbang ih =>
      rcases Lexeme.exists_spacing_of_next? hp with ⟨lead, htail, hlead, hne⟩
      rcases ih h with ⟨front, hfront, hsolid⟩
      have hmark := Lexeme.solid_of_next? hp (by rw [hbang]; rfl)
      refine ⟨lead ++ p.text ++ front, ?_, (hmark.behind hne hlead).append hsolid⟩
      rw [htail, hfront, List.append_assoc, List.append_assoc]
  | case5 => cases h
  | case6 => cases h
  | case7 negated first offset tail p hp start hbang piece hpiece hnegated =>
      cases h
      rcases Lexeme.exists_spacing_of_next? hp with ⟨lead, htail, hlead, hne⟩
      rcases Token.Piece.takes_of hp hpiece with ⟨more, hmore, hsolid⟩
      refine ⟨lead ++ (p.text ++ more), ?_, hsolid.behind (by simp [hne]) hlead⟩
      rw [htail, hmore, List.append_assoc, List.append_assoc]

/-- Where no token is left, exclamation marks may be, and spacing behind them. -/
theorem solid_of_nextFrom_none {wantsOperand negated : Bool} {first : Option Nat} {offset : Nat}
    {tail : List Char} (h : nextFrom wantsOperand negated first offset tail = .ok none) :
    ∃ front rest, tail = front ++ rest ∧ Solid front ∧ Spacing rest := by
  -- As before, except that the reading ends in spacing and not in a piece.
  fun_induction nextFrom wantsOperand negated first offset tail with
  | case1 => cases h
  | case2 => cases h
  | case3 negated first offset tail hnone =>
      exact ⟨[], tail, rfl, solid_nil, List.dropWhile_eq_nil_iff.mp (Lexeme.next?_eq_none.mp hnone)⟩
  | case4 negated first offset tail p hp start hbang ih =>
      rcases Lexeme.exists_spacing_of_next? hp with ⟨lead, htail, hlead, hne⟩
      rcases ih h with ⟨front, rest, hfront, hsolid, hrest⟩
      have hmark := Lexeme.solid_of_next? hp (by rw [hbang]; rfl)
      refine ⟨lead ++ p.text ++ front, rest, ?_, (hmark.behind hne hlead).append hsolid, hrest⟩
      rw [htail, hfront]
      simp only [List.append_assoc]
  | case5 => cases h
  | case6 => cases h
  | case7 => cases h

/-- A text that reads to its end is solid, up to spacing behind it. -/
theorem solid_of_finished {r : Reader} {leftover : Bool} (h : r.steps.2 = .finished leftover) :
    ∃ front rest, r.tail = front ++ rest ∧ Solid front ∧ Spacing rest := by
  fun_induction steps r with
  | case1 => cases h
  | case2 r hr => exact solid_of_nextFrom_none (next?_eq_none.mp hr)
  | case3 r t r' hr later ending hlater ih =>
      rcases solid_of_nextFrom (next?_eq_some.mp hr).1 with ⟨front, hfront, hsolid⟩
      rw [hlater] at ih
      rcases ih h with ⟨front', rest, hfront', hsolid', hrest⟩
      refine ⟨front ++ front', rest, ?_, hsolid.append hsolid', hrest⟩
      rw [hfront, hfront', List.append_assoc]

end Reader

namespace Token

variable {text : String} {leftover : Bool}

/-- A text that reads to its end closes the brackets that it opens, and its quoted
    texts end in it. -/
theorem level_of_finished (h : (read text).ending = .finished leftover) : Level text.toList := by
  rcases Reader.solid_of_finished (r := .start text.toList) h with
    ⟨front, rest, htext, hsolid, hrest⟩
  have hlevel := hsolid.level.append (level_of_plain fun c hc => isPlain_of_isSpacing (hrest c hc))
  rwa [← htext] at hlevel

/-- The blanks at the start of a text that reads to its end are spacing. -/
theorem spacing_leading (h : (read text).ending = .finished leftover) :
    Spacing (leading text.toList) := by
  have hnext := Reader.next?_ne_error_of_finished (r := .start text.toList) h
  rcases hbody : (leading text.toList).dropWhile Lexeme.isSpacing with _ | ⟨c, body⟩
  · exact List.dropWhile_eq_nil_iff.mp hbody
  · -- The first character that is not spacing would be a blank, and no lexeme starts with one.
    exfalso
    have hmem : c ∈ leading text.toList :=
      (List.dropWhile_sublist Lexeme.isSpacing).mem (hbody ▸ List.mem_cons_self)
    have hdrop : text.toList.dropWhile Lexeme.isSpacing =
        c :: (body ++ (trim text.toList ++ trailing text.toList)) := by
      conv_lhs => rw [← leading_trim_trailing text.toList]
      rw [List.dropWhile_append, hbody]
      rfl
    refine hnext (Lexeme.faultAt c (0 + width (text.toList.takeWhile Lexeme.isSpacing))) ?_
    unfold Lexeme.next?
    simp only [Reader.start, hdrop, Lexeme.scan?_eq_none_of_isBlank (isBlank_of_mem_leading hmem)]

/-- The blanks at the end of a text that reads to its end are spacing. -/
theorem spacing_trailing (h : (read text).ending = .finished leftover) :
    Spacing (trailing text.toList) := by
  rcases Reader.solid_of_finished (r := .start text.toList) h with
    ⟨front, rest, htext, hsolid, hrest⟩
  have hsplit :
      leading text.toList ++ trim text.toList ++ trailing text.toList = front ++ rest := by
    rw [List.append_assoc, leading_trim_trailing]
    exact htext
  rcases List.append_eq_append_iff.mp hsplit with ⟨as, rfl, htrailing⟩ | ⟨bs, _, rfl⟩
  · rcases List.eq_nil_or_concat' as with rfl | ⟨as, c, rfl⟩
    · rwa [htrailing]
    · -- What is read would end with a blank.
      have hlast := hsolid.last c (by rw [← List.append_assoc, List.getLast?_concat]; rfl)
      have hmem : c ∈ trailing text.toList := by
        rw [htrailing]
        exact List.mem_append_left rest (List.mem_append_right as List.mem_cons_self)
      have hblank := isBlank_of_mem_trailing hmem
      rw [hlast] at hblank
      cases hblank
  · exact fun c hc => hrest c (List.mem_append_right bs hc)

end Token

end Reckon
