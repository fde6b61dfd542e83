import Reckon.Proofs.Readable
import Reckon.Proofs.Shifting

/-!
# Reading What Stands in Front

A text may be cut off in front of where a token starts, and what is left of it be read by
itself. The tokens that are read are those that were read there before, for two reasons.
A lexeme that ends before the cut is scanned without a look at what comes behind the cut,
as nothing there continues it (`Lexeme.scan?_of_append_tail`). And a path or a minus sign,
which look at the lexeme behind them, find nothing where they found what they leave alone.

That the shorter text has a fault where the longer one has none cannot be excluded for one
token by itself: a quoted text may be cut in two. It is excluded by where the token behind
ends, so the lemmas say of every token that what is read next is no fault, and an induction
along the tokens that starts at the cut has that from the tokens behind.

## Theorems

* `Lexeme.scan?_of_append_tail`, `Lexeme.next?_of_append_tail`: A lexeme that ends before the
  cut.
* `Token.Piece.of_of_append`: The piece that starts with it.
* `Reader.nextFrom_of_append`: The next token.
-/

namespace Reckon

open Text

namespace Lexeme

variable {e cs rest : List Char}

/-- A lexeme that ends before the text goes on is one of the text alone. -/
theorem scan?_of_append_tail (he : Loose e) (hcs : cs ≠ []) {lexeme : Lexeme} {text : List Char}
    (h : scan? (cs ++ e) = some (lexeme, text, rest ++ e)) :
    scan? cs = some (lexeme, text, rest) := by
  -- If the text scanned to something else by itself, that would also be read in front of
  -- what follows.
  rcases hscan : scan? cs with _ | ⟨lexeme', text', tail'⟩
  · exfalso
    rcases scan?_append_of_none he hcs hscan with hnone | ⟨c, cs', rfl, _, hopen, hscan'⟩
    · rw [hnone] at h
      cases h
    · -- The quote that ends the text comes before what the text goes on with.
      rw [hscan', Option.map_eq_some_iff] at h
      rcases h with ⟨tail, htail, h⟩
      rw [Prod.mk.injEq, Prod.mk.injEq] at h
      rw [h.2.2] at htail
      rcases afterQuote_eq_some htail with ⟨front, heq, hfront⟩
      rw [← List.cons_append, ← List.append_assoc, List.append_cancel_right_eq] at heq
      rw [heq, hfront] at hopen
      cases hopen
  · rw [scan?_append he hscan, Option.some.injEq, Prod.mk.injEq, Prod.mk.injEq,
      List.append_cancel_right_eq] at h
    rcases h with ⟨rfl, rfl, rfl⟩
    rfl

/-- The next lexeme, if it ends before the text goes on, is that of the text alone. -/
theorem next?_of_append_tail (he : Loose e) {offset : Nat} {p' : Placed}
    (h : next? offset (cs ++ e) = .ok (some p')) (htail : p'.tail = rest ++ e) (offset' : Nat) :
    ∃ p, next? offset' cs = .ok (some p) ∧ Same e p p' := by
  have hscan := (next?_eq_some.mp h).1
  have hcs : cs.dropWhile isSpacing ≠ [] := by
    intro hnil
    -- The lexeme would stand behind the text, and end behind its own start.
    have hlt := length_scan?_lt hscan
    have hle := (List.dropWhile_sublist (l := e) isSpacing).length_le
    rw [List.dropWhile_append, hnil, htail, List.length_append] at hlt
    simp only [List.isEmpty_nil, if_true] at hlt
    omega
  have hbody : (cs ++ e).dropWhile isSpacing = cs.dropWhile isSpacing ++ e := by
    rw [List.dropWhile_append, if_neg]
    rwa [List.isEmpty_iff]
  rw [hbody, htail] at hscan
  exact ⟨⟨p'.lexeme, offset' + width (cs.takeWhile isSpacing), p'.text, rest⟩,
    next?_eq_some.mpr ⟨scan?_of_append_tail he hcs hscan, rfl⟩, ⟨rfl, rfl, htail⟩⟩

end Lexeme

namespace Token.Piece

open Lexeme (Placed Parting)

variable {e rest : List Char} {p p' : Placed} {piece' : Piece}

/-- A piece that ends before the text goes on has no fault behind its first lexeme. -/
theorem Looks.next?_ne_error_of_append (h : Looks p' piece') (he : Loose e)
    (hp : Lexeme.Same e p p') (hrest : piece'.tail = rest ++ e)
    (hfault : ∀ offset fault, Lexeme.next? offset rest ≠ .error fault) (fault : Fault) :
    Lexeme.next? p.stop p.tail ≠ .error fault := by
  rcases h with ⟨kind, rfl⟩ | ⟨q, kind, hq, rfl⟩
  · have htail : p'.tail = rest ++ e := hrest
    rw [hp.tail_eq, List.append_cancel_right_eq] at htail
    rw [htail]
    exact hfault _ fault
  · have hnext := Lexeme.next?_of_peek? hq
    rw [hp.tail_eq] at hnext
    rcases Lexeme.next?_of_append_tail he hnext hrest p.stop with ⟨q₀, hq₀, _⟩
    rw [hq₀]
    exact nofun

theorem ofBracket_of_append {opener closer : Char} {kind : List Char → Kind String}
    (hp : Lexeme.Same e p p') (h : ofBracket p' opener closer kind = .ok piece')
    (hrest : piece'.tail = rest ++ e) :
    ∃ piece, ofBracket p opener closer kind = .ok piece ∧ Same e piece piece' := by
  -- The closer comes before the cut, so it is found in the text alone.
  have hclosed : ∃ piece, ofBracket p opener closer kind = .ok piece := by
    unfold ofBracket at h
    split at h
    next c tail hclose =>
      cases h
      have htail : tail = rest ++ e := hrest
      rcases closes_of_closerIn hclose with ⟨inside, after, heq, hc, hcloser, hinside⟩
      cases hc
      rw [hp.tail_eq, htail, ← List.cons_append, ← List.append_assoc,
        List.append_cancel_right_eq] at heq
      unfold ofBracket
      rw [heq, Level.closerIn_eq hinside hcloser]
      exact ⟨_, rfl⟩
    next => cases h
  rcases hclosed with ⟨piece, hpiece⟩
  rcases ofBracket_append hp hpiece with ⟨piece'', hpiece'', hsame⟩
  cases h.symm.trans hpiece''
  exact ⟨piece, hpiece, hsame⟩

/-- The piece that starts with a lexeme, if it ends before the text goes on and no fault
    comes behind it, is that of the text alone. -/
theorem of_of_append {wantsOperand : Bool} (he : Parting e) (hp : Lexeme.Same e p p')
    (h : of p' wantsOperand = .ok piece') (hrest : piece'.tail = rest ++ e)
    (hfault : ∀ offset fault, Lexeme.next? offset rest ≠ .error fault) :
    ∃ piece, of p wantsOperand = .ok piece ∧ Same e piece piece' := by
  unfold of at h ⊢
  rw [hp.lexeme_eq] at h
  split at h
  -- Only a path and a minus sign look behind them, and what they may find there is no fault.
  case h_7 =>
    cases h
    exact ⟨_, rfl, ofPath_append he hp
      ((looks_ofPath p').next?_ne_error_of_append he.loose hp hrest hfault)⟩
  case h_8 =>
    cases h
    exact ⟨_, rfl, ofMinus_append wantsOperand he hp
      ((looks_ofMinus p' wantsOperand).next?_ne_error_of_append he.loose hp hrest hfault)⟩
  case h_10 => exact ofBracket_of_append hp h hrest
  case h_11 => exact ofBracket_of_append hp h hrest
  case h_12 | h_13 | h_14 | h_15 | h_16 => cases h
  all_goals
    cases h
    refine ⟨_, rfl, ?_, hp.tail_eq⟩
    simp only [ofPlaced, hp.text_eq]

end Token.Piece

namespace Reader

open Lexeme (Parting)

/-- The next token takes the front of a text. -/
theorem suffix_of_nextFrom {wantsOperand negated : Bool} {first : Option Nat} {offset : Nat}
    {tail : List Char} {t : Token String} {r : Reader}
    (h : nextFrom wantsOperand negated first offset tail = .ok (some (t, r))) :
    r.tail <:+ tail := by
  -- A mark or a piece is taken from the front, and nothing is put back.
  fun_induction nextFrom wantsOperand negated first offset tail with
  | case1 => cases h
  | case2 => cases h
  | case3 => cases h
  | case4 negated first offset tail p hp start hbang ih => exact (ih h).trans (suffix_of_next? hp)
  | case5 => cases h
  | case6 => cases h
  | case7 negated first offset tail p hp start hbang piece hpiece hnegated =>
      cases h
      rcases Token.Piece.takes_of hp hpiece with ⟨more, hmore, _⟩
      have hsuffix : piece.tail <:+ p.tail := ⟨more, hmore.symm⟩
      exact hsuffix.trans (suffix_of_next? hp)

/-- The next token, if it ends before the text goes on and no fault comes behind it, is that
    of the text alone. -/
theorem nextFrom_of_append {e tail rest : List Char} (he : Parting e) {wantsOperand negated : Bool}
    {first : Option Nat} {offset : Nat} {t' : Token String} {r' : Reader}
    (h : nextFrom wantsOperand negated first offset (tail ++ e) = .ok (some (t', r')))
    (hrest : r'.tail = rest ++ e)
    (hfault : ∀ offset fault, Lexeme.next? offset rest ≠ .error fault) (first' : Option Nat)
    (offset' : Nat) :
    ∃ t r, nextFrom wantsOperand negated first' offset' tail = .ok (some (t, r)) ∧
      Token.Same t t' ∧ Same e r r' := by
  -- What is left behind a lexeme of the token ends with what the text goes on with.
  have hends {cs : List Char} (h : r'.tail <:+ cs) : ∃ more, cs = more ++ rest ++ e := by
    rcases h with ⟨more, hmore⟩
    exact ⟨more, by rw [← hmore, hrest, List.append_assoc]⟩
  obtain ⟨cs, hcs⟩ : ∃ cs, cs = tail ++ e := ⟨_, rfl⟩
  rw [← hcs] at h
  fun_induction nextFrom wantsOperand negated first offset cs generalizing tail first' offset' with
  | case1 => cases h
  | case2 => cases h
  | case3 => cases h
  | case4 negated first offset cs p' hp' start hbang =>
      rename_i ih
      subst hcs
      rcases hends (suffix_of_nextFrom h) with ⟨more, hmore⟩
      rcases Lexeme.next?_of_append_tail he.loose hp' hmore offset' with ⟨p, hp, hsame⟩
      rw [nextFrom_of_bang hp (hsame.lexeme_eq.symm.trans hbang)]
      exact ih _ _ h hsame.tail_eq
  | case5 => cases h
  | case6 => cases h
  | case7 negated first offset cs p' hp' start hbang piece' hpiece' =>
      rename_i hnegated
      subst hcs
      cases h
      rcases Token.Piece.takes_of hp' hpiece' with ⟨more, hmore, _⟩
      rcases hends ⟨more, hmore.symm⟩ with ⟨more', hmore'⟩
      rcases Lexeme.next?_of_append_tail he.loose hp' hmore' offset' with ⟨p, hp, hsame⟩
      rcases Token.Piece.of_of_append he hsame hpiece' hrest hfault with ⟨piece, hpiece, hsame'⟩
      have hbang' : p.lexeme ≠ .bang := by rwa [← hsame.lexeme_eq]
      rw [hsame'.kind_eq] at hnegated
      rw [nextFrom_eq, hp]
      simp only [hbang', if_false, hpiece, hnegated]
      exact ⟨_, _, rfl, ⟨hsame'.kind_eq, rfl⟩,
        ⟨hsame'.tail_eq, congrArg Token.Kind.wantsOperand hsame'.kind_eq⟩⟩

end Reader

end Reckon
