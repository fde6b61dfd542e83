import Reckon.Proofs.Continuation
import Reckon.Proofs.Offsets
import Reckon.Proofs.Reading

/-!
# Where Tokens Stand

A reader goes through a text without leaving it. Its offset is always the one at
which what is left of the text starts, every lexeme starts and ends at a place
of the text, and so does every token, however many lexemes and brackets it is
made of. Where reading stops at a fault, that fault is at a place of the text as
well.

Of the texts inside a token it is said that they stand one after the other from
just past the first byte of the token. That byte is the bracket, or the first of
the exclamation marks before it; all of these are one byte wide
(`Lexeme.width_of_isMark`), which is why one byte past the start of the token is
a place at all.

## Main definitions

* `Lexeme.isMark`, `Lexeme.mark?`: The lexemes that a token with texts inside can
  start with, and their characters.
* `Lexeme.Placed.Stands`: A lexeme that stands in a text.
* `Token.Piece.Stands`: A piece of a token, with the texts inside it.
* `Token.Stands`: A token that stands in a text.

## Theorems

* `Lexeme.stands_of_next?`: The next lexeme stands in the text.
* `Token.Piece.stands_of`: What starts with a lexeme stands in the text.
* `Reader.nextFrom_stands`: A token stands in the text, and so does a fault.
* `Token.stands_of_mem_read`, `Token.boundary_of_read`: The reading of a text.
-/

namespace Reckon

open Text

namespace Lexeme

/-- A lexeme stands at the start of the text that it is read from. -/
theorem append_of_scan? {cs text tail : List Char} {lexeme : Lexeme}
    (h : scan? cs = some (lexeme, text, tail)) : text ++ tail = cs := by
  rcases exists_scans h with ⟨c, rest, rfl, hscans⟩
  cases hscans with
  | word => rw [List.cons_append, List.take_append_drop]
  | number => rw [List.cons_append, List.take_append_drop]
  | quoted _ hafter => rw [List.cons_append, upTo_append_of_suffix (suffix_of_afterQuote hafter)]
  | symbol => exact List.take_append_drop _ _

/-- The lexemes that a token with texts inside can start with. -/
def isMark : Lexeme → Bool
  | bang | openParen | openBracket => true
  | _ => false

/-- The character that a lexeme is, where a token with texts inside can start
    with it. -/
def mark? : Lexeme → Option Char
  | bang => some '!'
  | openParen => some '('
  | openBracket => some '['
  | _ => none

theorem shape_of_mark? {lexeme : Lexeme} {c : Char} (h : lexeme.mark? = some c) :
    lexeme.shape = .symbol := by
  cases lexeme with
  | bang | openParen | openBracket => rfl
  | _ => cases h

theorem exists_mark? {lexeme : Lexeme} (h : lexeme.isMark = true) :
    ∃ c, lexeme.mark? = some c ∧ c.utf8Size = 1 := by
  cases lexeme with
  | bang | openParen | openBracket => exact ⟨_, rfl, rfl⟩
  | _ => cases h

/-- The symbols that are marks have one character. -/
theorem text_of_symbol? {cs : List Char} {lexeme : Lexeme} {n : Nat} {c : Char}
    (h : symbol? cs = some (lexeme, n)) (hmark : lexeme.mark? = some c) : cs.take n = [c] := by
  unfold symbol? at h
  split at h
  -- an exclamation mark and the two openers
  case h_9 | h_28 | h_30 =>
    cases h
    cases hmark
    rfl
  case h_33 => cases h
  all_goals
    simp only [Option.some.injEq, Prod.mk.injEq] at h
    rcases h with ⟨rfl, rfl⟩
    cases hmark

/-- The lexemes that a token with texts inside can start with have one character. -/
theorem text_of_mark? {cs text tail : List Char} {lexeme : Lexeme} {c : Char}
    (h : scan? cs = some (lexeme, text, tail)) (hmark : lexeme.mark? = some c) : text = [c] := by
  rcases exists_symbol_of_scan? h (shape_of_mark? hmark) with ⟨n, hsymbol, rfl⟩
  exact text_of_symbol? hsymbol hmark

/-- The lexemes that a token with texts inside can start with have one byte. -/
theorem width_of_isMark {cs text tail : List Char} {lexeme : Lexeme}
    (h : scan? cs = some (lexeme, text, tail)) (hmark : lexeme.isMark = true) :
    width text = 1 := by
  rcases exists_mark? hmark with ⟨c, hc, hsize⟩
  rw [text_of_mark? h hc, width_cons, hsize]
  rfl

/-- A lexeme that stands in `source`, with what follows it. -/
structure Placed.Stands (source : List Char) (p : Placed) : Prop where
  start : TailAt source p.start (p.text ++ p.tail)
  mark : p.lexeme.isMark = true → width p.text = 1

theorem Placed.Stands.stop {source : List Char} {p : Placed} (h : p.Stands source) :
    TailAt source p.stop p.tail :=
  h.start.skip

section Next

variable {source tail : List Char} {offset : Nat}

/-- After the spacing, a text is left that starts behind it. -/
theorem tailAt_dropWhile (h : TailAt source offset tail) :
    TailAt source (offset + width (tail.takeWhile isSpacing)) (tail.dropWhile isSpacing) := by
  rw [← List.takeWhile_append_dropWhile (p := isSpacing) (l := tail)] at h
  exact h.skip

/-- The next lexeme stands in the text. -/
theorem stands_of_next? {p : Placed} (h : TailAt source offset tail)
    (hp : next? offset tail = .ok (some p)) : p.Stands source := by
  rcases next?_eq_some.mp hp with ⟨hscan, hstart⟩
  have hbody := tailAt_dropWhile h
  rw [← hstart, ← append_of_scan? hscan] at hbody
  exact ⟨hbody, width_of_isMark hscan⟩

theorem stands_of_peek? {p : Placed} (h : TailAt source offset tail)
    (hp : peek? offset tail = some p) : p.Stands source := by
  unfold peek? at hp
  split at hp
  next found hnext =>
    subst hp
    exact stands_of_next? h hnext
  next => cases hp

/-- Where no lexeme starts, the text has a character, and the fault is there. -/
theorem boundary_of_next? {fault : Token.Fault} (h : TailAt source offset tail)
    (hf : next? offset tail = .error fault) : Boundary source fault.pos := by
  have hbody := (tailAt_dropWhile h).boundary
  unfold next? at hf
  simp only at hf
  split at hf
  · cases hf
  next c body _ =>
    split at hf
    · cases hf
    · cases hf
      unfold faultAt
      split <;> exact hbody

end Next

end Lexeme

namespace Token

namespace Piece

open Lexeme (Placed)

variable {source : List Char} {p : Placed}

/-- A piece that starts with the lexeme `p` and stands in `source`. If there are
    texts inside it, it starts with a single byte, and they follow in order. -/
structure Stands (source : List Char) (p : Placed) (piece : Piece) : Prop where
  tail : TailAt source piece.stop piece.tail
  nested : piece.kind.nested ≠ [] →
    width p.text = 1 ∧ InOrder p.tail (piece.kind.nested.map String.toList)

/-- A piece without texts inside, which may end with a lexeme further on. -/
theorem stands_ofPlaced {q : Placed} (h : q.Stands source) {kind : Kind String}
    (hk : kind.nested = []) : (ofPlaced q kind).Stands source p :=
  ⟨h.stop, fun hne => absurd hk hne⟩

theorem stands_ofPath (h : p.Stands source) : (ofPath p).Stands source p := by
  unfold ofPath
  simp only
  split
  · exact stands_ofPlaced h rfl
  · split
    next q hq =>
      have hpeek := (Option.filter_eq_some_iff.mp hq).1
      exact stands_ofPlaced (Lexeme.stands_of_peek? h.stop hpeek) rfl
    next =>
      split
      · exact stands_ofPlaced h rfl
      · split <;> exact stands_ofPlaced h rfl

theorem stands_ofMinus (h : p.Stands source) (wantsOperand : Bool) :
    (ofMinus p wantsOperand).Stands source p := by
  unfold ofMinus
  split
  next q hq =>
    have hpeek := (Option.filter_eq_some_iff.mp hq).1
    exact stands_ofPlaced (Lexeme.stands_of_peek? h.stop hpeek) rfl
  next => exact stands_ofPlaced h rfl

/-- A bracket up to its closer, if what its inside becomes is in order there. -/
theorem stands_ofBracket (h : p.Stands source) (hmark : p.lexeme.isMark = true)
    {opener closer : Char} {kind : List Char → Kind String} {piece : Piece}
    (hk : ∀ inside, InOrder inside ((kind inside).nested.map String.toList))
    (hpiece : ofBracket p opener closer kind = .ok piece) : piece.Stands source p := by
  unfold ofBracket at hpiece
  split at hpiece
  next c tail hcloser =>
    cases hpiece
    -- What stands between the brackets is what is left of the text up to the closer.
    have hinside := upTo_append_of_suffix (suffix_of_closerIn hcloser)
    have hstop := h.stop
    rw [← hinside] at hstop
    have hcloser' : TailAt source _ ([c] ++ tail) := hstop.skip
    refine ⟨hcloser'.skip, fun _ => ⟨h.mark hmark, ?_⟩⟩
    have horder := (hk (upTo p.tail (c :: tail))).append (c :: tail)
    rwa [hinside] at horder
  next => cases hpiece

/-- What starts with a lexeme of the text stands in the text. -/
theorem stands_of (h : p.Stands source) {wantsOperand : Bool} {piece : Piece}
    (hpiece : of p wantsOperand = .ok piece) : piece.Stands source p := by
  unfold of at hpiece
  split at hpiece
  -- a path, which may take the equals sign after it
  case h_7 =>
    cases hpiece
    exact stands_ofPath h
  -- a minus sign, which may take the number after it
  case h_8 =>
    cases hpiece
    exact stands_ofMinus h wantsOperand
  -- parentheses and square brackets, the only tokens with texts inside
  case h_10 hlexeme =>
    refine stands_ofBracket h (by rw [hlexeme]; rfl) (fun inside => ?_) hpiece
    simpa only [group, Kind.nested, Operand.nested, List.map_cons, List.map_nil,
      String.toList_ofList] using inOrder_trim inside
  case h_11 hlexeme =>
    refine stands_ofBracket h (by rw [hlexeme]; rfl) (fun inside => ?_) hpiece
    simpa only [list, Kind.nested, Operand.nested, List.map_map, Function.comp_def,
      String.toList_ofList, List.map_id'] using inOrder_elements inside
  case h_12 | h_13 | h_14 | h_15 | h_16 => cases hpiece
  all_goals
    cases hpiece
    exact stands_ofPlaced h rfl

/-- A lexeme that starts no token is a fault where it stands. -/
theorem pos_of {wantsOperand : Bool} {fault : Fault} (h : of p wantsOperand = .error fault) :
    fault.pos = p.start := by
  unfold of at h
  split at h
  case h_10 | h_11 =>
    unfold ofBracket at h
    split at h
    · cases h
    · cases h
      rfl
  all_goals
    cases h
    try rfl

end Piece

/-- A token that stands in `source`. If there are texts inside it, they follow
    in order from one byte past its start. -/
structure Stands (source : List Char) (t : Token String) : Prop where
  start : Boundary source t.span.start
  stop : Boundary source t.span.stop
  nested : Holds source (t.span.start + 1) (t.nested.map String.toList)

end Token

namespace Reader

variable {source : List Char}

/-- A reader that has read some exclamation marks, the first of them at `first`,
    has not left the text behind it. -/
def Marked (source tail : List Char) (first : Option Nat) : Prop :=
  ∀ start, first = some start →
    Boundary source start ∧ ∃ more, TailAt source (start + 1) more ∧ tail <:+ more

/-- The start of a token, given its first lexeme: a mark, or the first of the
    marks before it. -/
theorem Marked.start {tail : List Char} {first : Option Nat} {p : Lexeme.Placed}
    (hfirst : Marked source tail first) (hp : p.Stands source) (hsuffix : p.tail <:+ tail) :
    Boundary source (first.getD p.start) ∧
      (width p.text = 1 → Marked source p.tail (some (first.getD p.start))) := by
  cases first with
  | none =>
      -- The token starts here, and one byte further on its first lexeme ends.
      refine ⟨hp.start.boundary, fun hwidth start hstart => ?_⟩
      cases hstart
      have hstop := hp.start.skip
      rw [hwidth] at hstop
      exact ⟨hp.start.boundary, p.tail, hstop, List.suffix_refl _⟩
  | some start =>
      -- The token has started before, and less of the text is left now.
      rcases hfirst start rfl with ⟨hstart, more, hmore, hsuffix'⟩
      refine ⟨hstart, fun _ start' hstart' => ?_⟩
      cases hstart'
      exact ⟨hstart, more, hmore, hsuffix.trans hsuffix'⟩

/-- What the next token is like, or the fault in its place. -/
def NextStands (source : List Char) :
    Except Token.Fault (Option (Token String × Reader)) → Prop
  | .error fault => Boundary source fault.pos
  | .ok none => True
  | .ok (some (t, r)) => t.Stands source ∧ TailAt source r.offset r.tail

/-- Reading goes on in the text that is left. -/
theorem suffix_of_next? {offset : Nat} {tail : List Char} {p : Lexeme.Placed}
    (hp : Lexeme.next? offset tail = .ok (some p)) : p.tail <:+ tail := by
  have hscan := (Lexeme.next?_eq_some.mp hp).1
  have hbody : p.tail <:+ tail.dropWhile Lexeme.isSpacing := ⟨p.text, Lexeme.append_of_scan? hscan⟩
  exact hbody.trans (List.dropWhile_suffix _)

/-- The next token stands in the text, and so does a fault in its place. -/
theorem nextFrom_stands {wantsOperand negated : Bool} {first : Option Nat} {offset : Nat}
    {tail : List Char} (h : TailAt source offset tail) (hfirst : Marked source tail first) :
    NextStands source (nextFrom wantsOperand negated first offset tail) := by
  -- Exclamation marks are read one by one until another lexeme comes.
  fun_induction nextFrom wantsOperand negated first offset tail with
  | case1 _ _ _ _ fault hnext => exact Lexeme.boundary_of_next? h hnext
  | case2 => exact h.boundary_end
  | case3 => trivial
  | case4 negated first offset tail p hp start hbang ih =>
      have hstands := Lexeme.stands_of_next? h hp
      have hstart := hfirst.start hstands (suffix_of_next? hp)
      exact ih hstands.stop (hstart.2 (hstands.mark (by rw [hbang]; rfl)))
  | case5 negated first offset tail p hp hbang fault hpiece =>
      have hstands := Lexeme.stands_of_next? h hp
      have hpos := Token.Piece.pos_of hpiece
      rw [NextStands, hpos]
      exact hstands.start.boundary
  | case6 negated first offset tail p hp start hbang piece hpiece hnegated =>
      exact (hfirst.start (Lexeme.stands_of_next? h hp) (suffix_of_next? hp)).1
  | case7 negated first offset tail p hp start hbang piece hpiece hnegated =>
      have hstands := Lexeme.stands_of_next? h hp
      have hpiece' := Token.Piece.stands_of hstands hpiece
      have hstart := (hfirst.start hstands (suffix_of_next? hp)).2
      refine ⟨⟨(hfirst.start hstands (suffix_of_next? hp)).1, hpiece'.tail.boundary,
        fun hne => ?_⟩, hpiece'.tail⟩
      -- The texts inside the bracket follow it, and it may follow exclamation marks.
      rcases hpiece'.nested (mt List.map_eq_nil_iff.mpr hne) with ⟨hwidth, horder⟩
      rcases hstart hwidth start rfl with ⟨_, more, hmore, hsuffix⟩
      exact ⟨more, hmore, horder.of_suffix hsuffix⟩

/-- A token that ends too far out is a fault where it starts, which is in the text. -/
theorem narrowed_stands {found : Option (Token String × Reader)}
    (h : NextStands source (.ok found)) : NextStands source (narrowed found) := by
  rcases found with _ | ⟨t, r⟩
  · trivial
  · by_cases hspan : t.span.start ≤ Span.limit ∧ t.span.stop ≤ Span.limit
    · rwa [narrowed_of_le r hspan.1 hspan.2]
    · rw [narrowed_of_not_le r hspan]
      exact h.1.start

theorem wide?_stands {r : Reader} (h : TailAt source r.offset r.tail) :
    NextStands source r.wide? :=
  nextFrom_stands h nofun

theorem next?_stands {r : Reader} (h : TailAt source r.offset r.tail) :
    NextStands source r.next? := by
  have hwide := wide?_stands h
  unfold next?
  cases hfound : r.wide? with
  | error fault => rwa [hfound] at hwide
  | ok found =>
      rw [hfound] at hwide
      exact narrowed_stands hwide

/-- All tokens to come stand in the text, and so does a fault that ends them. -/
theorem steps_stands {r : Reader} (h : TailAt source r.offset r.tail) :
    (∀ step ∈ r.steps.1, step.1.Stands source) ∧
      ∀ fault, r.steps.2 = .fault fault → Boundary source fault.pos := by
  have hnext := next?_stands h
  -- The place of each reader is that where the token before it stops.
  fun_induction steps r with
  | case1 r fault hr =>
      rw [hr] at hnext
      refine ⟨List.forall_mem_nil _, fun fault' heq => ?_⟩
      cases heq
      exact hnext
  | case2 => exact ⟨List.forall_mem_nil _, fun _ => Reading.End.noConfusion⟩
  | case3 r t r' hr later ending heq ih =>
      rw [hr] at hnext
      rcases hnext with ⟨ht, hr'⟩
      have hlater := ih hr' (next?_stands hr')
      rw [heq] at hlater
      refine ⟨fun step hstep => ?_, hlater.2⟩
      rcases List.mem_cons.mp hstep with rfl | hstep
      · exact ht
      · exact hlater.1 step hstep

end Reader

namespace Token

/-- The tokens of a text stand in it. -/
theorem stands_of_mem_read {text : String} {t : Token String} (h : t ∈ (read text).tokens) :
    t.Stands text.toList := by
  rcases List.mem_map.mp h with ⟨step, hstep, rfl⟩
  exact (Reader.steps_stands (r := Reader.start text.toList) (tailAt_zero _)).1 step hstep

/-- The fault that ends the reading of a text is in it. -/
theorem boundary_of_read {text : String} {fault : Fault} (h : (read text).ending = .fault fault) :
    Boundary text.toList fault.pos :=
  (Reader.steps_stands (r := Reader.start text.toList) (tailAt_zero _)).2 fault h

end Token

end Reckon
