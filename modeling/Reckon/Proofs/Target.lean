import Reckon.Proofs.Readable
import Reckon.Proofs.Shifting

/-!
# Targets of Assignments

A path in front of an equals sign is the target of an assignment. Spacing may stand
around it, and exclamation marks in pairs before it. What comes after the equals sign
is read as it is alone, so a chain of assignments is read as its targets and then the
expression at its end (`Token.read_chain`).

Without the equals sign the same text is read as an operand: as a type if the path is
the name of one, and as the value of the path otherwise (`Target.read_text`). Both
readings take the same lexemes, so what is proved for texts that go on is used in
both directions here: with what a lexeme is in the longer text it is known what it is
in the shorter one. Only a quoted text may end later in the longer one.

## Main definitions

* `Target`: A text that an equals sign makes the target of an assignment.
* `chainText`: A chain of assignments in front of an expression.
* `Operand.ofPath`: What a path is that is no target.

## Theorems

* `Lexeme.next?_of_append`: The next lexeme, found again in a text that goes on less.
* `Target.next?_eq`: A target is read up to its equals sign.
* `Token.read_chain`: A chain of assignments.
* `Target.read_text`: The text of a target alone.
-/

namespace Reckon

open Text

/-- A text that an equals sign makes the target of an assignment. -/
structure Target where
  text : String
  /-- The name under which the assignment stores its value. -/
  name : String
  reads : ∃ span, Token.read (text ++ " =") = ⟨[⟨.assign name, span, false⟩], .finished false⟩

/-- A chain of assignments in front of an expression. -/
def chainText (targets : List Target) (text : String) : String :=
  targets.foldr (fun target rest => target.text ++ " = " ++ rest) text

theorem chainText_cons (target : Target) (targets : List Target) (text : String) :
    chainText (target :: targets) text = target.text ++ " = " ++ chainText targets text := rfl

namespace Lexeme

variable {e cs : List Char}

/-- A lexeme of a text that goes on is one before the text goes on. -/
theorem scan?_of_append (he : Loose e) (hcs : cs ≠ []) {lexeme : Lexeme} {text tail : List Char}
    (hquoted : lexeme ≠ .quoted) (h : scan? (cs ++ e) = some (lexeme, text, tail)) :
    ∃ tail', scan? cs = some (lexeme, text, tail') ∧ tail = tail' ++ e := by
  rcases hscan : scan? cs with _ | ⟨lexeme', text', tail'⟩
  · exfalso
    rcases scan?_append_of_none he hcs hscan with hnone | ⟨c, rest, _, _, _, hscan'⟩
    · rw [hnone] at h
      cases h
    · rw [hscan', Option.map_eq_some_iff] at h
      rcases h with ⟨_, _, h⟩
      exact hquoted (congrArg Prod.fst h).symm
  · rw [scan?_append he hscan] at h
    cases h
    exact ⟨tail', rfl, rfl⟩

/-- The next lexeme of a text that goes on is that of the text, if anything but
    spacing is in it. -/
theorem next?_of_append (he : Loose e) {offset : Nat} {p : Placed}
    (hcs : cs.dropWhile isSpacing ≠ []) (hquoted : p.lexeme ≠ .quoted)
    (h : next? offset (cs ++ e) = .ok (some p)) (offset' : Nat) :
    ∃ p₀, next? offset' cs = .ok (some p₀) ∧ Same e p₀ p := by
  have hscan := (next?_eq_some.mp h).1
  have hbody : (cs ++ e).dropWhile isSpacing = cs.dropWhile isSpacing ++ e := by
    rw [List.dropWhile_append, if_neg]
    rwa [List.isEmpty_iff]
  rw [hbody] at hscan
  rcases scan?_of_append he hcs hquoted hscan with ⟨tail', hscan', htail⟩
  exact ⟨⟨p.lexeme, offset' + width (cs.takeWhile isSpacing), p.text, tail'⟩,
    next?_eq_some.mpr ⟨hscan', rfl⟩, ⟨rfl, rfl, htail⟩⟩

/-- What stands behind the text of a target to make it one. -/
theorem loose_equals : Loose [' ', '='] := (apart_cons _).loose

/-- The next lexeme of a text with an equals sign behind it is that of the text, or the
    equals sign. -/
theorem next?_of_equals {offset : Nat} {p : Placed} (hequals : p.lexeme ≠ .equals)
    (hquoted : p.lexeme ≠ .quoted) (h : next? offset (cs ++ [' ', '=']) = .ok (some p))
    (offset' : Nat) :
    ∃ p₀, next? offset' cs = .ok (some p₀) ∧ Same [' ', '='] p₀ p := by
  refine next?_of_append loose_equals (fun hcs => ?_) hquoted h offset'
  have hblank : next? 0 cs = .ok none := next?_eq_none.mpr hcs
  have hnext : next? 0 [' ', '='] = .ok (some ⟨.equals, 1, ['='], []⟩) := rfl
  rcases next?_append_of_none hblank hnext offset with ⟨p', hp', hsame⟩
  rw [h] at hp'
  cases hp'
  exact hequals hsame.lexeme_eq

end Lexeme

/-- What a path is that is no target: the type that it names, or the value that it
    leads to. -/
def Operand.ofPath (path : String) : Operand String :=
  match if !path.toList.contains '.' then TypeName.ofName? path else none with
  | some type => .literal (.type type)
  | none => .identifier path

namespace Token.Piece

open Lexeme (Placed)

variable {e : List Char} {p p' : Placed} {wantsOperand : Bool} {name : String} {stop : Nat}
  {tail : List Char}

/-- The target of an assignment starts with a path that is no operator, and an equals
    sign follows it. -/
theorem path_of_assign (h : of p wantsOperand = .ok ⟨.assign name, stop, tail⟩) :
    p.lexeme = .path ∧ String.ofList p.text = name ∧
      (if !p.text.contains '.' then Operator.ofKeyword? name else none) = none ∧
      ∃ q, Lexeme.peek? p.stop p.tail = some q ∧ q.lexeme = .equals ∧ q.tail = tail := by
  unfold of at h
  -- Only a path with an equals sign behind it is read as a target.
  split at h
  case h_7 hlexeme =>
    refine ⟨hlexeme, ?_⟩
    unfold ofPath at h
    simp only at h
    split at h
    · cases h
    next hop =>
      split at h
      next q hq =>
        rcases Option.filter_eq_some_iff.mp hq with ⟨hpeek, hequals⟩
        cases h
        exact ⟨rfl, hop, q, hpeek, eq_of_beq hequals, rfl⟩
      · split at h
        · cases h
        · split at h <;> cases h
  case h_8 =>
    unfold ofMinus at h
    split at h <;> cases h
  case h_10 | h_11 =>
    unfold ofBracket at h
    split at h <;> cases h
  all_goals cases h

/-- The target of an assignment is the same after the text goes on with spacing, as
    the equals sign ends it. -/
theorem of_append_of_assign (he : Loose e) (hp : Lexeme.Same e p p')
    (h : of p wantsOperand = .ok ⟨.assign name, stop, tail⟩) :
    ∃ piece', of p' wantsOperand = .ok piece' ∧ Same e ⟨.assign name, stop, tail⟩ piece' := by
  rcases path_of_assign h with ⟨hlexeme, hname, hop, q, hpeek, hequals, rfl⟩
  rcases Lexeme.next?_append he (Lexeme.next?_of_peek? hpeek) p'.stop with ⟨q', hq', hsame⟩
  rw [← hp.tail_eq] at hq'
  refine ⟨ofPlaced q' (.assign name), ?_, rfl, hsame.tail_eq⟩
  unfold of ofPath
  simp only [hp.lexeme_eq, hlexeme, hp.text_eq, hname, hop, Lexeme.peek?_of_ok hq',
    Option.filter_some, hsame.lexeme_eq, hequals, beq_self_eq_true, if_true]

/-- What the path of a target is where the text ends before the equals sign. -/
theorem of_of_assign (hp : Lexeme.Same [' ', '='] p p')
    (h : of p' wantsOperand = .ok ⟨.assign name, stop, []⟩) :
    of p wantsOperand = .ok (ofPlaced p (.operand (.ofPath name))) ∧
      p.tail.dropWhile Lexeme.isSpacing = [] := by
  rcases path_of_assign h with ⟨hlexeme, hname, hop, q, hpeek, hequals, htail⟩
  -- Nothing but spacing is between the path and the equals sign, which is the last one.
  have hspacing : p.tail.dropWhile Lexeme.isSpacing = [] := by
    by_contra hne
    have hquoted : q.lexeme ≠ .quoted := by
      rw [hequals]
      exact Lexeme.noConfusion
    have hnext := Lexeme.next?_of_peek? hpeek
    rw [hp.tail_eq] at hnext
    rcases Lexeme.next?_of_append Lexeme.loose_equals hne hquoted hnext 0 with ⟨q₀, _, hsame⟩
    rw [hsame.tail_eq] at htail
    exact List.append_ne_nil_of_right_ne_nil _ (List.cons_ne_nil _ _) htail
  refine ⟨?_, hspacing⟩
  have hblank : Lexeme.next? p.stop p.tail = .ok none := Lexeme.next?_eq_none.mpr hspacing
  have hnone := Lexeme.peek?_of_ok hblank
  have htext : name.toList = p.text := by
    rw [← hname, String.toList_ofList, hp.text_eq]
  rw [hp.lexeme_eq] at hlexeme
  rw [hp.text_eq] at hname hop
  unfold of ofPath Operand.ofPath
  simp only [hlexeme, hname, hop, hnone, htext, Option.filter_none, Option.any_none,
    Bool.false_eq_true, if_false]
  generalize (if (!p.text.contains '.') = true then TypeName.ofName? name else none) = type?
  cases type? <;> rfl

end Token.Piece

namespace Reader

/-- Where the target of an assignment is read up to its equals sign, the text without
    the equals sign is read as an operand. -/
theorem nextFrom_of_assign {wantsOperand negated : Bool} {first : Option Nat}
    {offset : Nat} {tail : List Char} {name : String} {span : Span} {stop : Nat}
    (h : nextFrom wantsOperand negated first offset tail =
      .ok (some (⟨.assign name, span, false⟩, ⟨[], stop, true⟩)))
    (cs : List Char) (htail : tail = cs ++ [' ', '=']) (first' : Option Nat) (offset' : Nat) :
    ∃ span' r, nextFrom wantsOperand negated first' offset' cs =
        .ok (some (⟨.operand (.ofPath name), span', false⟩, r)) ∧
      r.tail.dropWhile Lexeme.isSpacing = [] := by
  -- The induction is on the exclamation marks before the target.
  fun_induction nextFrom wantsOperand negated first offset tail generalizing cs first' offset' with
  | case1 => cases h
  | case2 => cases h
  | case3 => cases h
  | case4 negated first offset tail p hp start hbang ih =>
      rw [htail] at hp
      rcases Lexeme.next?_of_equals (by rw [hbang]; exact Lexeme.noConfusion)
        (by rw [hbang]; exact Lexeme.noConfusion) hp offset' with ⟨p₀, hp₀, hsame⟩
      rw [nextFrom_of_bang hp₀ (hsame.lexeme_eq.symm.trans hbang)]
      exact ih h _ hsame.tail_eq _ _
  | case5 => cases h
  | case6 => cases h
  | case7 negated first offset tail p hp start hbang piece hpiece hnegated =>
      rw [htail] at hp
      obtain ⟨kind, stop', tail'⟩ := piece
      cases h
      have hpath := (Token.Piece.path_of_assign hpiece).1
      rcases Lexeme.next?_of_equals (by rw [hpath]; exact Lexeme.noConfusion)
        (by rw [hpath]; exact Lexeme.noConfusion) hp offset' with ⟨p₀, hp₀, hsame⟩
      rcases Token.Piece.of_of_assign hsame hpiece with ⟨hpiece₀, hspacing⟩
      rw [hsame.lexeme_eq] at hbang
      rw [nextFrom_eq, hp₀]
      simp only [hbang, if_false, hpiece₀, Bool.false_and, Bool.false_eq_true]
      exact ⟨_, _, rfl, hspacing⟩

theorem wantsOperand_of_nextFrom {wantsOperand negated : Bool} {first : Option Nat} {offset : Nat}
    {tail : List Char} {t : Token String} {r : Reader}
    (h : nextFrom wantsOperand negated first offset tail = .ok (some (t, r))) :
    r.wantsOperand = t.kind.wantsOperand := by
  fun_induction nextFrom wantsOperand negated first offset tail with
  | case4 _ _ _ _ _ _ _ _ ih => exact ih h
  | case7 =>
      cases h
      rfl
  | _ => cases h

/-- A text with one token: what is behind the token is blank. -/
theorem next?_of_tokens {r : Reader} {t : Token String} (htokens : r.tokens = [t])
    (hending : r.steps.2 = .finished false) :
    ∃ r', r.next? = .ok (some (t, r')) ∧ r'.hasMore = false := by
  -- The list of tokens says what the reader gives first, and that nothing comes behind it.
  rcases hnext : r.next? with fault | _ | ⟨t', r'⟩
  · rw [(tokens_of_error hnext).1] at htokens
    cases htokens
  · rw [(tokens_of_none hnext).1] at htokens
    cases htokens
  · rw [(tokens_of_some hnext).1, List.cons.injEq] at htokens
    rcases htokens with ⟨rfl, hnil⟩
    refine ⟨r', rfl, ?_⟩
    rw [(tokens_of_some hnext).2] at hending
    rcases hnext' : r'.next? with fault | _ | ⟨t'', r''⟩
    · rw [(tokens_of_error hnext').2] at hending
      cases hending
    · rw [(tokens_of_none hnext').2] at hending
      exact Reading.End.finished.inj hending
    · rw [(tokens_of_some hnext').1] at hnil
      cases hnil

end Reader

namespace Target

variable (target : Target)

theorem toList_text : (target.text ++ " =").toList = target.text.toList ++ [' ', '='] := by
  rw [String.toList_append]
  rfl

/-- A target is read up to its equals sign, with which the text ends. -/
theorem next?_eq :
    ∃ span stop, (Reader.start (target.text.toList ++ [' ', '='])).next? =
      .ok (some (⟨.assign target.name, span, false⟩, ⟨[], stop, true⟩)) := by
  rcases target.reads with ⟨span, hread⟩
  have htokens : (Reader.start (target.text ++ " =").toList).tokens =
      [⟨.assign target.name, span, false⟩] := congrArg Reading.tokens hread
  have hending : (Reader.start (target.text ++ " =").toList).steps.2 = .finished false :=
    congrArg Reading.ending hread
  rcases Reader.next?_of_tokens htokens hending with ⟨⟨tail, stop, wantsOperand⟩, hnext, hmore⟩
  have hwants : wantsOperand = true :=
    Reader.wantsOperand_of_nextFrom (Reader.next?_eq_some.mp hnext).1
  rw [toList_text] at hnext
  -- What is left is blank, but if anything were left it would end with the equals sign.
  have htail : tail = [] := by
    have hstands := Reader.next?_stands (tailAt_zero (target.text.toList ++ [' ', '=']))
      (r := Reader.start (target.text.toList ++ [' ', '=']))
    rw [hnext] at hstands
    rcases hstands.2 with ⟨before, hsource, _⟩
    have hsuffix : tail <:+ (target.text.toList ++ [' ']) ++ ['='] := by
      rw [List.append_assoc]
      exact ⟨before, hsource.symm⟩
    rcases List.suffix_concat_iff.mp hsuffix with hnil | ⟨more, rfl, _⟩
    · exact hnil
    · have hequals : isBlank '=' = false := by decide
      simp only [Reader.hasMore, allBlank, List.all_append, List.all_cons, hequals, Bool.false_and,
        Bool.and_false, Bool.not_false, Bool.true_eq_false] at hmore
  rw [htail, hwants] at hnext
  exact ⟨span, stop, hnext⟩

/-- A target is within the limit, as its equals sign is. -/
theorem narrow_text : Token.Narrow target.text := by
  rcases target.next?_eq with ⟨span, stop, hnext⟩
  rcases Reader.next?_eq_some.mp hnext with ⟨hwide, _, hstop⟩
  have hstands := Reader.wide?_stands (tailAt_zero (target.text.toList ++ [' ', '=']))
    (r := Reader.start (target.text.toList ++ [' ', '=']))
  rw [hwide] at hstands
  -- The sign ends the text, so the text is no longer than the span of the token.
  have hwidth := hstands.2.add_width
  have hoffset := Reader.offset_of_nextFrom hwide
  simp only [width_append, width_toList, width_nil] at hwidth hoffset
  refine Token.narrow_of_le ?_
  simp only at hstop
  omega

/-- The text of a target alone is an operand. -/
theorem read_text :
    ∃ span, Token.read target.text = ⟨[⟨.operand (.ofPath target.name), span, false⟩],
      .finished false⟩ := by
  rcases target.next?_eq with ⟨_, _, hnext⟩
  rcases Reader.nextFrom_of_assign (Reader.next?_eq_some.mp hnext).1 target.text.toList rfl none 0
    with ⟨span, r, hwide, hspacing⟩
  have hfirst : (Reader.start target.text.toList).next? =
      .ok (some (⟨.operand (.ofPath target.name), span, false⟩, r)) :=
    (Reader.Narrow.next?_eq target.narrow_text).trans hwide
  have hrest : r.next? = .ok none := by
    refine Reader.next?_of_none ?_
    rw [Reader.wide?, Reader.nextFrom_eq, Lexeme.next?_eq_none.mpr hspacing]
    rfl
  -- Only the spacing in front of the equals sign is left over.
  have hmore : r.hasMore = false := by
    have hblank : Spacing r.tail := List.dropWhile_eq_nil_iff.mp hspacing
    rw [Reader.hasMore, hblank.allBlank]
    rfl
  refine ⟨span, ?_⟩
  unfold Token.read
  rw [Reader.steps_eq, hfirst]
  simp only
  rw [Reader.steps_of_none hrest, hmore]
  rfl

/-- An assignment is read as its target, and then as what comes after the equals sign
    is read where it stands. -/
theorem steps_target (rest : List Char) (offset : Nat)
    (hnarrow : (⟨target.text.toList ++ [' ', '=', ' '] ++ rest, offset, true⟩ : Reader).Narrow) :
    ∃ t offset', t.kind = .assign target.name ∧
      (⟨target.text.toList ++ [' ', '=', ' '] ++ rest, offset, true⟩ : Reader).tokens =
        t :: (⟨rest, offset', true⟩ : Reader).tokens ∧
      (⟨target.text.toList ++ [' ', '=', ' '] ++ rest, offset, true⟩ : Reader).steps.2 =
        (⟨rest, offset', true⟩ : Reader).steps.2 := by
  have hloose : Loose (' ' :: rest) := (apart_cons _).loose
  have htext : target.text.toList ++ [' ', '=', ' '] ++ rest =
      (target.text.toList ++ [' ', '=']) ++ ' ' :: rest := by
    simp only [List.append_assoc, List.cons_append, List.nil_append]
  rcases target.next?_eq with ⟨span, stop, hnext⟩
  rcases Reader.nextFrom_append_of hloose (Reader.next?_eq_some.mp hnext).1
    (fun _ _ hsame hpiece => Token.Piece.of_append_of_assign hloose hsame hpiece) none offset with
    ⟨t, ⟨tail, offset', wantsOperand⟩, hwide, hsame, hr⟩
  cases hr.tail_eq
  cases hr.wantsOperand_eq
  rw [htext] at hnarrow
  rcases Reader.tokens_of_some (hnarrow.next?_eq.trans hwide) with ⟨htokens, hending⟩
  -- Behind the equals sign there is a space, and then the rest of the text.
  have hspace := Reader.steps_space true offset' rest
  refine ⟨t, offset' + 1, hsame.kind_eq, ?_, ?_⟩
  · rw [htext, htokens]
    exact congrArg (fun steps => t :: steps.1.map Prod.fst) hspace
  · rw [htext, hending]
    exact congrArg Prod.snd hspace

/-- A chain of assignments is read as its targets, and then as the expression at its
    end is read where it stands. -/
theorem steps_chain (targets : List Target) (text : String) (offset : Nat)
    (hnarrow : (⟨(chainText targets text).toList, offset, true⟩ : Reader).Narrow) :
    ∃ ts offset', List.Forall₂ (fun target t => t.kind = .assign target.name) targets ts ∧
      (⟨(chainText targets text).toList, offset, true⟩ : Reader).tokens =
        ts ++ (⟨text.toList, offset', true⟩ : Reader).tokens ∧
      (⟨(chainText targets text).toList, offset, true⟩ : Reader).steps.2 =
        (⟨text.toList, offset', true⟩ : Reader).steps.2 := by
  induction targets generalizing offset with
  | nil => exact ⟨[], offset, .nil, rfl, rfl⟩
  | cons target targets ih =>
      have htext : (chainText (target :: targets) text).toList =
          target.text.toList ++ [' ', '=', ' '] ++ (chainText targets text).toList := by
        rw [chainText_cons, String.toList_append, String.toList_append]
        rfl
      -- The reader fits after each target, as what is left of the chain is shorter.
      rw [htext] at hnarrow
      rcases target.steps_target (chainText targets text).toList offset hnarrow with
        ⟨t, offset₁, ht, htokens, hending⟩
      unfold Reader.Narrow at hnarrow
      rw [hending] at hnarrow
      rcases ih offset₁ hnarrow with ⟨ts, offset₂, hts, htokens', hending'⟩
      rw [htext, htokens, htokens', hending, hending']
      exact ⟨t :: ts, offset₂, .cons ht hts, rfl, rfl⟩

end Target

/-- A chain of assignments is read as its targets, and the expression at its end as it
    is alone. -/
theorem Token.read_chain (targets : List Target) (text : String)
    (hnarrow : Narrow (chainText targets text)) :
    ∃ ts us ending, read (chainText targets text) = ⟨ts ++ us, ending⟩ ∧
      List.Forall₂ (fun target t => t.kind = .assign target.name) targets ts ∧
      (read text).Moved ⟨us, ending⟩ := by
  rcases Target.steps_chain targets text 0 hnarrow with ⟨ts, offset, hts, htokens, hending⟩
  have hnarrow' : (⟨text.toList, offset, true⟩ : Reader).Narrow := by
    unfold Narrow at hnarrow
    rw [read_eq_start, Reader.start, hending] at hnarrow
    exact hnarrow
  refine ⟨ts, _, _, ?_, hts, moved_read text offset hnarrow'⟩
  rw [read_eq_start, Reader.start, htokens, hending]

end Reckon
