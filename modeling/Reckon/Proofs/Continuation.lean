import Reckon.Proofs.Reading

/-!
# Lexemes of a Text that Goes On

A lexeme is the longest one that fits, so a text that goes on may change the
lexemes it starts with. It does not if it goes on with spacing, or with any other
character that continues no lexeme outside quotes: a quoted text has found its end
before that character comes. The same lexemes are found, and what follows them
goes on as the text does.

The lemmas here go through the scanners in the order in which they are defined,
each saying that its scanner stops where it did.

## Main definitions

* `Apart`: A text that starts with a space, or nothing.
* `Lexeme.continues`: The characters that a lexeme may go on with.
* `Loose`: A text that no lexeme before it grows into.
* `Spacing`: A text of spacing.
* `Lexeme.Same`: Lexemes that differ in their places only.
* `Lexeme.shape`, `Lexeme.Scans`: Which kind of text a lexeme is, and how it is scanned.

## Theorems

* `Text.afterQuote_append`, `Text.closerIn_append`: Quotes and brackets.
* `Lexeme.scan?_append`: A lexeme of a text that goes on.
* `Lexeme.next?_append`: The next lexeme of a text that goes on.
* `Lexeme.next?_append_of_none`: The next lexeme where none is left.
* `Lexeme.exists_scans`: The four ways in which a lexeme is scanned.
-/

namespace Reckon

open Text

/-- A text that can follow another one without growing into it: nothing, or a
    text that starts with a space. -/
def Apart (e : List Char) : Prop := ∀ c rest, e = c :: rest → c = ' '

theorem apart_nil : Apart [] := nofun

theorem apart_cons (rest : List Char) : Apart (' ' :: rest) := by
  intro c rest' h
  cases h
  rfl

/-- The characters that a lexeme may go on with, if it is not a quoted text: those of
    names and numbers, and those that make a symbol a longer one. -/
def Lexeme.continues (c : Char) : Bool :=
  isNameChar c || c == '.' || c == '=' || c == '<' || c == '>' || c == '&' || c == '|'

/-- A text that no lexeme before it grows into: nothing, or a text that starts
    with a character that continues none. -/
def Loose (e : List Char) : Prop := ∀ c rest, e = c :: rest → Lexeme.continues c = false

theorem Lexeme.continues_of_isSpacing {c : Char} (h : isSpacing c = true) :
    continues c = false := by
  simp only [isSpacing, Bool.or_eq_true, beq_iff_eq] at h
  rcases h with ((rfl | rfl) | rfl) | rfl <;> rfl

theorem Apart.loose {e : List Char} (he : Apart e) : Loose e := by
  intro c rest h
  rw [he c rest h]
  rfl

/-- A text of spacing. -/
def Spacing (e : List Char) : Prop := ∀ c ∈ e, Lexeme.isSpacing c = true

theorem Spacing.loose {e : List Char} (he : Spacing e) : Loose e := by
  rintro c rest rfl
  exact Lexeme.continues_of_isSpacing (he c List.mem_cons_self)

theorem isBlank_of_isSpacing {c : Char} (h : Lexeme.isSpacing c = true) : isBlank c = true := by
  simp only [Lexeme.isSpacing, Bool.or_eq_true, beq_iff_eq] at h
  rcases h with ((rfl | rfl) | rfl) | rfl <;> rfl

theorem Spacing.allBlank {e : List Char} (he : Spacing e) : allBlank e = true :=
  List.all_eq_true.mpr fun c hc => isBlank_of_isSpacing (he c hc)

/-- What stands between two places stays there when the text goes on. -/
theorem Text.upTo_append {cs tail : List Char} (e : List Char) :
    upTo (cs ++ e) (tail ++ e) = upTo cs tail := by
  unfold upTo
  rw [List.length_append, List.length_append, Nat.add_sub_add_right,
    List.take_append_of_le_length (Nat.sub_le _ _)]

/-- A character of a quoted text that no backslash is. -/
theorem Text.afterQuote_cons (mayEscape : Char → Bool) (quote : Char) {c : Char} (hc : c ≠ '\\')
    (cs : List Char) :
    afterQuote mayEscape quote (c :: cs) =
      if c = quote then some cs else afterQuote mayEscape quote cs :=
  afterQuote.eq_4 mayEscape quote c cs (fun h _ => hc h) fun _ _ h _ => hc h

/-- A quoted text ends where it did. -/
theorem Text.afterQuote_append {mayEscape : Char → Bool} {quote : Char} {cs tail : List Char}
    (e : List Char) (h : afterQuote mayEscape quote cs = some tail) :
    afterQuote mayEscape quote (cs ++ e) = some (tail ++ e) := by
  have hne {c : Char} {cs : List Char} (hlast : c = '\\' → cs = [] → False)
      (hescape : ∀ c' cs', c = '\\' → cs = c' :: cs' → False) : c ≠ '\\' := by
    intro hc
    cases cs with
    | nil => exact hlast hc rfl
    | cons c' cs' => exact hescape c' cs' hc rfl
  fun_induction afterQuote mayEscape quote cs with
  | case1 => cases h
  | case2 => cases h
  | case3 c cs hescape ih =>
      -- A backslash and the character that it escapes are read together.
      simp only [List.cons_append, afterQuote, hescape, if_true]
      exact ih h
  | case4 => cases h
  | case5 cs hlast hescape =>
      -- The quote that ends the text.
      cases h
      rw [List.cons_append, afterQuote_cons _ _ (hne hlast hescape), if_pos rfl]
  | case6 c cs hlast hescape hquote ih =>
      rw [List.cons_append, afterQuote_cons _ _ (hne hlast hescape), if_neg hquote]
      exact ih h

/-- A bracket is closed where it was. -/
theorem Text.closerIn_append {closer : Char} {depth : Nat} {cs tail : List Char}
    (e : List Char) (h : closerIn closer depth cs = some tail) :
    closerIn closer depth (cs ++ e) = some (tail ++ e) := by
  fun_induction closerIn closer depth cs with
  | case1 => cases h
  | case2 => cases h
  | case3 depth c cs hquote rest hrest ih =>
      -- A quoted text inside the bracket ends where it did, and the search goes on there.
      rw [List.cons_append, closerIn_cons, if_pos hquote, afterQuoted,
        afterQuote_append e hrest]
      exact ih h
  | case4 depth c cs hquote hopen ih =>
      rw [List.cons_append, closerIn_cons, if_neg hquote, if_pos hopen]
      exact ih h
  | case5 cs hquote hopen hclose =>
      -- The closer that was looked for.
      cases h
      rw [List.cons_append, closerIn_cons, if_neg hquote, if_neg hopen, if_pos hclose]
      exact if_pos rfl
  | case6 => cases h
  | case7 c cs hquote hopen hclose depth ih =>
      rw [List.cons_append, closerIn_cons, if_neg hquote, if_neg hopen, if_pos hclose]
      exact ih h
  | case8 depth c cs hquote hopen hclose ih =>
      rw [List.cons_append, closerIn_cons, if_neg hquote, if_neg hopen, if_neg hclose]
      exact ih h

namespace Lexeme

theorem isNameChar_of_not_continues {c : Char} (h : continues c = false) :
    isNameChar c = false := by
  simp only [continues, Bool.or_eq_false_iff] at h
  exact h.1.1.1.1.1.1

theorem isDigit_of_not_continues {c : Char} (h : continues c = false) : c.isDigit = false :=
  (Bool.or_eq_false_iff.mp (isNameChar_of_not_continues h)).2

theorem ne_of_not_continues {c d : Char} (h : continues c = false) (hd : continues d = true) :
    c ≠ d := by
  rintro rfl
  exact Bool.noConfusion (h.symm.trans hd)

/-- A character that does not continue a path ends it. -/
theorem pathLength_cons (n : Nat) {c : Char} (hc : c ≠ '.') (cs : List Char) :
    pathLength n (c :: cs) = if isNameChar c then pathLength (n + 1) cs else n :=
  pathLength.eq_3 n c cs fun _ _ h _ => hc h

theorem pathLength_append {e : List Char} (he : Loose e) (n : Nat) (cs : List Char) :
    pathLength n (cs ++ e) = pathLength n cs := by
  fun_induction pathLength n cs with
  | case1 n =>
      -- The path goes to the end of the text, and what comes behind does not continue it.
      rcases e with _ | ⟨c, rest⟩
      · rfl
      · have hc := he c rest rfl
        rw [List.nil_append, pathLength_cons n (ne_of_not_continues hc rfl),
          isNameChar_of_not_continues hc]
        rfl
  | case2 n c cs hname ih =>
      simp only [List.cons_append, pathLength, hname, if_true]
      exact ih
  | case3 n c cs hname =>
      simp only [List.cons_append, pathLength, hname, Bool.false_eq_true, if_false]
  | case4 n c cs hpoint hname ih =>
      have hc : c ≠ '.' := by
        rintro rfl
        cases hname
      rw [List.cons_append, pathLength_cons n hc, if_pos hname]
      exact ih
  | case5 n c cs hpoint hname =>
      by_cases hc : c = '.'
      · -- A point at the end of the text is not continued either.
        subst hc
        rcases cs with _ | ⟨c', cs⟩
        · rcases e with _ | ⟨c, rest⟩
          · rfl
          · have hstart := (Bool.or_eq_false_iff.mp (isNameChar_of_not_continues (he c rest rfl))).1
            rw [List.cons_append, List.nil_append, pathLength, hstart]
            rfl
        · exact (hpoint c' cs rfl rfl).elim
      · rw [List.cons_append, pathLength_cons n hc, if_neg hname]

theorem pathLength_le (n : Nat) (cs : List Char) : pathLength n cs ≤ n + cs.length := by
  fun_induction pathLength n cs with
  | case1 n => exact Nat.le_refl n
  | case2 n c cs _ ih =>
      simp only [List.length_cons]
      omega
  | case3 n c cs _ => exact Nat.le_add_right _ _
  | case4 n c cs _ _ ih =>
      simp only [List.length_cons]
      omega
  | case5 n c cs _ _ => exact Nat.le_add_right _ _

/-- A word is followed by a point after the text goes on if it was before. -/
theorem ofWord_append {e : List Char} (he : Loose e) (word tail : List Char) :
    ofWord word (tail ++ e) = ofWord word tail := by
  have hhead : (tail ++ e).head? = some '.' ↔ tail.head? = some '.' := by
    rcases tail with _ | ⟨c, tail⟩
    · rcases e with _ | ⟨c, rest⟩
      · exact Iff.rfl
      · have hc := ne_of_not_continues (he c rest rfl) (d := '.') rfl
        simp only [List.nil_append, List.head?_cons, List.head?_nil, reduceCtorEq,
          Option.some.injEq, hc]
    · exact Iff.rfl
  unfold ofWord
  simp only [hhead]

theorem takeWhile_append {e : List Char} (he : Loose e) {p : Char → Bool}
    (hp : ∀ c, continues c = false → p c = false) (cs : List Char) :
    (cs ++ e).takeWhile p = cs.takeWhile p := by
  induction cs with
  | nil =>
      rcases e with _ | ⟨c, rest⟩
      · rfl
      · rw [List.nil_append, List.takeWhile_cons, hp c (he c rest rfl)]
        rfl
  | cons c cs ih => rw [List.cons_append, List.takeWhile_cons, List.takeWhile_cons, ih]

/-- A number has a point only if a digit follows the point. -/
theorem numberLength_eq_integer {cs : List Char}
    (h : ∀ c tail, cs.drop (cs.takeWhile Char.isDigit).length = '.' :: c :: tail →
      c.isDigit = false) :
    numberLength cs = (integer, (cs.takeWhile Char.isDigit).length) := by
  unfold numberLength
  simp only
  split
  next c tail hdrop =>
    rw [h c tail hdrop]
    rfl
  next => rfl

/-- A number goes on as far as it did. -/
theorem numberLength_append {e : List Char} (he : Loose e) (cs : List Char) :
    numberLength (cs ++ e) = numberLength cs := by
  have hdigits (cs : List Char) :
      ((cs ++ e).takeWhile Char.isDigit).length = (cs.takeWhile Char.isDigit).length := by
    rw [takeWhile_append he fun _ => isDigit_of_not_continues]
  have hwhole : (cs.takeWhile Char.isDigit).length ≤ cs.length :=
    (List.takeWhile_sublist _).length_le
  by_cases hpoint : ∃ c tail, cs.drop (cs.takeWhile Char.isDigit).length = '.' :: c :: tail
  · rcases hpoint with ⟨c, tail, hdrop⟩
    unfold numberLength
    simp only [hdigits, List.drop_append_of_le_length hwhole, hdrop, List.cons_append]
  · have hnone : ∀ c tail, cs.drop (cs.takeWhile Char.isDigit).length ≠ '.' :: c :: tail :=
      fun c tail hdrop => hpoint ⟨c, tail, hdrop⟩
    rw [numberLength_eq_integer fun c tail hdrop => absurd hdrop (hnone c tail),
      numberLength_eq_integer, hdigits]
    intro c tail hdrop
    rw [hdigits, List.drop_append_of_le_length hwhole] at hdrop
    -- A point at the end of the text is followed by what comes after it, which is no digit.
    rcases hrest : cs.drop (cs.takeWhile Char.isDigit).length with _ | ⟨d, _ | ⟨d', rest⟩⟩
    · rw [hrest] at hdrop
      exact absurd (he _ _ hdrop) (by decide)
    · rw [hrest] at hdrop
      injection hdrop with _ hspace
      exact isDigit_of_not_continues (he c tail hspace)
    · rw [hrest] at hdrop
      injection hdrop with hd _
      exact absurd (hd ▸ hrest) (hnone d' rest)

theorem numberLength_le (cs : List Char) : (numberLength cs).2 ≤ cs.length := by
  have hwhole : (cs.takeWhile Char.isDigit).length ≤ cs.length :=
    (List.takeWhile_sublist _).length_le
  unfold numberLength
  simp only
  -- With a point and digits behind it both runs of digits count, which is still within.
  split
  next c tail hdrop =>
    have hlen := congrArg List.length hdrop
    have htail : (tail.takeWhile Char.isDigit).length ≤ tail.length :=
      (List.takeWhile_sublist _).length_le
    simp only [List.length_drop, List.length_cons] at hlen
    split
    · simp only
      omega
    · exact hwhole
  next => exact hwhole

/-- A character that does not come next does not come next after the text goes on. -/
theorem ne_cons_append {e tail : List Char} (he : Loose e) {c : Char} (hc : continues c = true)
    (h : ∀ rest, tail = c :: rest → False) (rest : List Char) : tail ++ e = c :: rest → False := by
  intro heq
  rcases tail with _ | ⟨d, tail⟩
  · exact Bool.noConfusion ((he c rest heq).symm.trans hc)
  · cases heq
    exact h tail rfl

theorem ne_cons_cons_append {e tail : List Char} (he : Loose e) {c d : Char}
    (hc : continues c = true) (hd : continues d = true)
    (h : ∀ rest, tail = c :: d :: rest → False) (rest : List Char) :
    tail ++ e = c :: d :: rest → False := by
  intro heq
  rcases tail with _ | ⟨c', tail⟩
  · exact Bool.noConfusion ((he c _ heq).symm.trans hc)
  · rw [List.cons_append, List.cons.injEq] at heq
    rcases heq with ⟨rfl, heq⟩
    exact ne_cons_append he hd (fun rest' heq' => h rest' (by rw [heq'])) rest heq

/-- A symbol is not taken for a longer one after the text goes on. -/
theorem symbol?_append {e cs : List Char} {lexeme : Lexeme} {n : Nat} (he : Loose e)
    (h : symbol? cs = some (lexeme, n)) : symbol? (cs ++ e) = some (lexeme, n) ∧ n ≤ cs.length := by
  unfold symbol? at h
  split at h
  case h_33 => cases h
  all_goals
    simp only [Option.some.injEq, Prod.mk.injEq] at h
    rcases h with ⟨rfl, rfl⟩
    refine ⟨?_, by simp only [List.length_cons]; omega⟩
  -- The symbols that others start with: what follows them is still not what continues them.
  case h_7 hne => exact symbol?.eq_7 _ (ne_cons_append he rfl hne)
  case h_9 hne => exact symbol?.eq_9 _ (ne_cons_append he rfl hne)
  case h_11 hne => exact symbol?.eq_11 _ (ne_cons_append he rfl hne)
  case h_13 hne₁ hne₂ hne₃ =>
    exact symbol?.eq_13 _ (ne_cons_cons_append he rfl rfl hne₁)
      (ne_cons_append he rfl hne₂) (ne_cons_append he rfl hne₃)
  case h_15 hne => exact symbol?.eq_15 _ (ne_cons_append he rfl hne)
  case h_17 hne₁ hne₂ hne₃ =>
    exact symbol?.eq_17 _ (ne_cons_cons_append he rfl rfl hne₁)
      (ne_cons_append he rfl hne₂) (ne_cons_append he rfl hne₃)
  case h_19 hne => exact symbol?.eq_19 _ (ne_cons_append he rfl hne)
  case h_21 hne => exact symbol?.eq_21 _ (ne_cons_append he rfl hne)
  all_goals rfl

/-- A lexeme of a text is a lexeme after the text goes on. -/
theorem scan?_append {e cs text tail : List Char} {lexeme : Lexeme} (he : Loose e)
    (h : scan? cs = some (lexeme, text, tail)) :
    scan? (cs ++ e) = some (lexeme, text, tail ++ e) := by
  rcases cs with _ | ⟨c, cs⟩
  · cases h
  simp only [scan?, List.cons_append] at h ⊢
  split at h
  next hname =>
    -- a word
    have hlen : pathLength 0 cs ≤ cs.length := by
      have := pathLength_le 0 cs
      omega
    cases h
    rw [if_pos hname, pathLength_append he, List.take_append_of_le_length hlen,
      List.drop_append_of_le_length hlen, ofWord_append he]
  next hname =>
    rw [if_neg hname]
    split at h
    next hdigit =>
      -- a number
      have hlen := numberLength_le cs
      cases h
      rw [if_pos hdigit, numberLength_append he, List.take_append_of_le_length hlen,
        List.drop_append_of_le_length hlen]
    next hdigit =>
      rw [if_neg hdigit]
      split at h
      next hquote =>
        -- a quoted text
        rw [Option.map_eq_some_iff] at h
        rcases h with ⟨tail', htail, h⟩
        cases h
        rw [if_pos hquote, afterQuote_append e htail, Option.map_some, upTo_append]
      next hquote =>
        -- a symbol
        rw [Option.map_eq_some_iff] at h
        rcases h with ⟨⟨found, n⟩, hsymbol, h⟩
        cases h
        rcases symbol?_append he hsymbol with ⟨hsymbol', hlen⟩
        rw [if_neg hquote, ← List.cons_append, hsymbol', Option.map_some,
          List.take_append_of_le_length hlen, List.drop_append_of_le_length hlen]

/-- The next lexeme is the one that starts after the spacing. -/
theorem next?_eq_some {offset : Nat} {cs : List Char} {p : Placed} :
    next? offset cs = .ok (some p) ↔
      scan? (cs.dropWhile isSpacing) = some (p.lexeme, p.text, p.tail) ∧
        p.start = offset + width (cs.takeWhile isSpacing) := by
  unfold next?
  simp only
  -- Spacing is skipped first; then the scanner decides, and its failure is a fault.
  rcases hbody : cs.dropWhile isSpacing with _ | ⟨c, body⟩
  · constructor
    · intro h
      cases h
    · rintro ⟨h, _⟩
      cases h
  · rcases hscan : scan? (c :: body) with _ | ⟨lexeme, text, tail⟩
    · constructor
      · intro h
        cases h
      · rintro ⟨h, _⟩
        cases h
    · constructor
      · intro h
        cases h
        exact ⟨rfl, rfl⟩
      · rintro ⟨h, hstart⟩
        rcases p with ⟨lexeme', start, text', tail'⟩
        cases h
        simp only at hstart
        rw [hstart]

/-- A lexeme starts where there is no spacing. -/
theorem dropWhile_of_scan? {lexeme : Lexeme} {cs text tail : List Char}
    (h : scan? cs = some (lexeme, text, tail)) :
    cs.dropWhile isSpacing = cs ∧ cs.takeWhile isSpacing = [] := by
  cases cs with
  | nil => cases h
  | cons c cs =>
      have hc : ¬ isSpacing c = true := by
        intro hspacing
        rw [scan?_eq_none_of_isBlank (isBlank_of_isSpacing hspacing)] at h
        cases h
      exact ⟨List.dropWhile_cons_of_neg hc, List.takeWhile_cons_of_neg hc⟩

theorem next?_of_scan? {lexeme : Lexeme} {cs text tail : List Char}
    (h : scan? cs = some (lexeme, text, tail)) (offset : Nat) :
    next? offset cs = .ok (some ⟨lexeme, offset, text, tail⟩) := by
  rw [next?_eq_some, (dropWhile_of_scan? h).1, (dropWhile_of_scan? h).2]
  exact ⟨h, rfl⟩

/-- There is no next lexeme if only spacing is left. -/
theorem next?_eq_none {offset : Nat} {cs : List Char} :
    next? offset cs = .ok none ↔ cs.dropWhile isSpacing = [] := by
  unfold next?
  simp only
  rcases hbody : cs.dropWhile isSpacing with _ | ⟨c, body⟩
  · exact ⟨fun _ => rfl, fun _ => rfl⟩
  · constructor
    · intro h
      simp only at h
      split at h
      · cases h
      · cases h
    · intro h
      cases h

/-- What a lexeme is and what follows it, without its place: `p'` is `p` in a
    text that goes on with `e`. -/
structure Same (e : List Char) (p p' : Placed) : Prop where
  lexeme_eq : p'.lexeme = p.lexeme
  text_eq : p'.text = p.text
  tail_eq : p'.tail = p.tail ++ e

/-- The next lexeme of a text is the next one after the text goes on, wherever
    the text starts. -/
theorem next?_append {e cs : List Char} {offset : Nat} {p : Placed} (he : Loose e)
    (h : next? offset cs = .ok (some p)) (offset' : Nat) :
    ∃ p', next? offset' (cs ++ e) = .ok (some p') ∧ Same e p p' := by
  have hscan := (next?_eq_some.mp h).1
  -- Something follows the spacing, so none of it is in what the text goes on with.
  have hbody : (cs ++ e).dropWhile isSpacing = cs.dropWhile isSpacing ++ e := by
    rcases hcs : cs.dropWhile isSpacing with _ | ⟨c, body⟩
    · rw [hcs] at hscan
      cases hscan
    · rw [List.dropWhile_append, hcs]
      rfl
  refine ⟨⟨p.lexeme, offset' + width ((cs ++ e).takeWhile isSpacing), p.text, p.tail ++ e⟩, ?_,
    ⟨rfl, rfl, rfl⟩⟩
  rw [next?_eq_some, hbody]
  exact ⟨scan?_append he hscan, rfl⟩

/-- Where only spacing is left of a text, the next lexeme is that of what
    follows. -/
theorem next?_append_of_none {e cs : List Char} {offset offset₂ : Nat} {p : Placed}
    (h : next? offset cs = .ok none) (hp : next? offset₂ e = .ok (some p)) (offset' : Nat) :
    ∃ p', next? offset' (cs ++ e) = .ok (some p') ∧ Same [] p p' := by
  have hscan := (next?_eq_some.mp hp).1
  have hbody : (cs ++ e).dropWhile isSpacing = e.dropWhile isSpacing := by
    rw [List.dropWhile_append, next?_eq_none.mp h]
    rfl
  refine ⟨⟨p.lexeme, offset' + width ((cs ++ e).takeWhile isSpacing), p.text, p.tail⟩, ?_,
    ⟨rfl, rfl, (List.append_nil _).symm⟩⟩
  rw [next?_eq_some, hbody]
  exact ⟨hscan, rfl⟩

section Shape

/-- The four kinds of text that lexemes are. -/
inductive Shape where
  | word
  | number
  | quoted
  | symbol

/-- Which kind of text a lexeme is. -/
def shape : Lexeme → Shape
  | boolean _ | null | self | path => .word
  | integer | decimal => .number
  | quoted => .quoted
  | _ => .symbol

theorem shape_ofWord (word tail : List Char) : (ofWord word tail).shape = .word := by
  unfold ofWord
  split
  · rfl
  · split <;> rfl

theorem shape_numberLength (cs : List Char) : (numberLength cs).1.shape = .number := by
  unfold numberLength
  simp only
  split
  · split <;> rfl
  · rfl

/-- How a lexeme is scanned that starts with `c`, by the kind of text that it is. -/
inductive Scans (c : Char) (cs : List Char) : Lexeme → List Char → List Char → Prop
  | word : isNameStart c = true →
      Scans c cs (ofWord (c :: cs.take (pathLength 0 cs)) (cs.drop (pathLength 0 cs)))
        (c :: cs.take (pathLength 0 cs)) (cs.drop (pathLength 0 cs))
  | number : c.isDigit = true →
      Scans c cs (numberLength cs).1 (c :: cs.take (numberLength cs).2)
        (cs.drop (numberLength cs).2)
  | quoted {tail : List Char} : isQuote c = true → afterQuote mayEscape c cs = some tail →
      Scans c cs quoted (c :: upTo cs tail) tail
  | symbol {lexeme : Lexeme} {n : Nat} : symbol? (c :: cs) = some (lexeme, n) →
      Scans c cs lexeme ((c :: cs).take n) ((c :: cs).drop n)

variable {cs text tail : List Char} {lexeme : Lexeme}

/-- A lexeme is scanned in one of four ways. -/
theorem exists_scans (h : scan? cs = some (lexeme, text, tail)) :
    ∃ c rest, cs = c :: rest ∧ Scans c rest lexeme text tail := by
  cases cs with
  | nil => cases h
  | cons c cs =>
      refine ⟨c, cs, rfl, ?_⟩
      simp only [scan?] at h
      -- The first character alone decides which of the four readers goes on.
      split at h
      next hname =>
        cases h
        exact .word hname
      next =>
        split at h
        next hdigit =>
          cases h
          exact .number hdigit
        next =>
          split at h
          next hquote =>
            rw [Option.map_eq_some_iff] at h
            rcases h with ⟨rest, hrest, h⟩
            cases h
            exact .quoted hquote hrest
          next =>
            rw [Option.map_eq_some_iff] at h
            rcases h with ⟨⟨found, n⟩, hsymbol, h⟩
            cases h
            exact .symbol hsymbol

theorem exists_symbol_of_scan? (h : scan? cs = some (lexeme, text, tail))
    (hshape : lexeme.shape = .symbol) :
    ∃ n, symbol? cs = some (lexeme, n) ∧ text = cs.take n := by
  rcases exists_scans h with ⟨c, rest, rfl, hscans⟩
  cases hscans with
  | word =>
      rw [shape_ofWord] at hshape
      cases hshape
  | number =>
      rw [shape_numberLength] at hshape
      cases hshape
  | quoted => cases hshape
  | symbol hsymbol => exact ⟨_, hsymbol, rfl⟩

end Shape

end Lexeme

end Reckon
