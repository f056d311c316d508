import BenchDepot.Json.Codec
import BenchDepot.Json.Reader
import BenchDepot.Proofs.NumeralText

/-!
# Reading a value that was written

The text of a value is read as the value again.  The machine that cuts a text into tokens finds the
tokens of the value, whatever follows it, as long as no number goes on there; the machine that puts
tokens together makes the value of them, whatever is open around it.  The one thing that does not
come back is a byte that belongs to no character: it is written as the replacement character.

* `Scan.resume_render` — the tokens of a text that was written;
* `Assembly.run_tokens` — the value of its tokens;
* `Value.parse?_text` — reading a text that was written.
-/

namespace BenchDepot.Json

open Decimal (Progress Numeral)

variable {c : Char} {cs rest : List Char} {found : List Token} {pieces : List Piece}
  {stack : List Frame}

/-! ## What is written -/

namespace Value

mutual

/-- The tokens of a value. -/
def tokens : Value → List Token
  | .null => [.null]
  | .bool b => [.bool b]
  | .number n => [.number n]
  | .string pieces => [.string pieces]
  | .array [] => [.openArray, .closeArray]
  | .array (item :: items) => .openArray :: (tokens item ++ itemTokens items ++ [.closeArray])
  | .object [] => [.openObject, .closeObject]
  | .object ((name, value) :: members) =>
    .openObject :: .string name :: .colon ::
      (tokens value ++ memberTokens members ++ [.closeObject])

/-- The tokens of the items after the first, each behind a comma. -/
def itemTokens : List Value → List Token
  | [] => []
  | item :: items => .comma :: (tokens item ++ itemTokens items)

/-- The tokens of the members after the first, each behind a comma. -/
def memberTokens : List (List Piece × Value) → List Token
  | [] => []
  | (name, value) :: members =>
    .comma :: .string name :: .colon :: (tokens value ++ memberTokens members)

end

mutual

/-- Whether no string in a value holds a byte that belongs to no character. -/
def Plain : Value → Prop
  | .string pieces => Piece.stray ∉ pieces
  | .array items => PlainItems items
  | .object members => PlainMembers members
  | _ => True

def PlainItems : List Value → Prop
  | [] => True
  | item :: items => Plain item ∧ PlainItems items

def PlainMembers : List (List Piece × Value) → Prop
  | [] => True
  | (name, value) :: members => Piece.stray ∉ name ∧ Plain value ∧ PlainMembers members

end

end Value

/-! ## Cutting -/

namespace Scan

/-- The tokens of a text whose start was read already. -/
def resume (scan : Scan) (cs : List Char) : Option (List Token) :=
  (scan.run (cs.map .char)).bind finish

theorem resume_cons {scan next : Scan} (h : scan.stepChar c = some next) :
    scan.resume (c :: cs) = next.resume cs := by
  have hstep : scan.step (.char c) = some next := h
  rw [resume, List.map_cons, run, hstep]
  rfl

/-- A text in which no number goes on: it is empty, or starts behind an item or a member. -/
def Delimited (cs : List Char) : Prop :=
  ∀ c, cs.head? = some c → c = ',' ∨ c = ']' ∨ c = '}'

theorem delimited_cons (hc : c = ',' ∨ c = ']' ∨ c = '}') (cs : List Char) :
    Delimited (c :: cs) := by
  intro d hd
  cases hd
  exact hc

theorem delimited_nil : Delimited [] := fun _ h => nomatch h

/-! ### Numbers -/

theorem resume_number {p q : Progress} (h : cs.foldlM Progress.step p = some q) :
    (⟨found, .number p⟩ : Scan).resume (cs ++ rest) =
      (⟨found, .number q⟩ : Scan).resume rest := by
  induction cs generalizing p with
  | nil =>
      cases h
      rfl
  | cons c cs ih =>
      rw [List.foldlM_cons] at h
      obtain ⟨next, hnext, hrun⟩ := Option.bind_eq_some_iff.mp h
      have hstep : (⟨found, .number p⟩ : Scan).stepChar c = some ⟨found, .number next⟩ := by
        simp only [stepChar, hnext]
      rw [List.cons_append, resume_cons hstep]
      exact ih hrun

/-- A numeral ends where no number goes on. -/
theorem resume_finish {p : Progress} {n : Numeral} (h : p.finish = some n)
    (hrest : Delimited rest) :
    (⟨found, .number p⟩ : Scan).resume rest =
      (⟨.number n :: found, .between⟩ : Scan).resume rest := by
  cases rest with
  | nil =>
      show p.finish.map _ = _
      rw [h]
      rfl
  | cons c cs =>
      -- what cannot go on a number ends it, and then starts a token of its own
      have hstop : p.step c = none := by
        rcases hrest c rfl with rfl | rfl | rfl <;> cases p <;> rfl
      have hstep : (⟨found, .number p⟩ : Scan).stepChar c = start (.number n :: found) c := by
        simp only [stepChar, hstop, h]
      have hstep' : (⟨.number n :: found, .between⟩ : Scan).stepChar c =
          start (.number n :: found) c := rfl
      cases hstart : start (.number n :: found) c with
      | none =>
          have hstray := hstep.trans hstart
          have hstray' := hstep'.trans hstart
          rw [resume, resume, List.map_cons, run, run, step, step, hstray, hstray']
      | some next => rw [resume_cons (hstep.trans hstart), resume_cons (hstep'.trans hstart)]

/-- No token of another kind starts like a numeral. -/
theorem start_of_start? {p : Progress} (h : Progress.start? c = some p) :
    start found c = some ⟨found, .number p⟩ := by
  have hne : ∀ d : Char, Progress.start? d = none → c ≠ d := by
    rintro d hd rfl
    rw [hd] at h
    cases h
  have hspace : isSpace c = false := by
    simp only [isSpace, hne ' ' rfl, hne '\t' rfl, hne '\n' rfl, hne '\r' rfl, decide_false,
      Bool.or_false]
  simp only [start, hspace, hne '{' rfl, hne '}' rfl, hne '[' rfl, hne ']' rfl, hne ',' rfl,
    hne ':' rfl, hne '"' rfl, hne 'n' rfl, hne 't' rfl, hne 'f' rfl, h, Bool.false_eq_true,
    if_false, Option.map_some]

theorem resume_numeral (n : Numeral) (hrest : Delimited rest) :
    (⟨found, .between⟩ : Scan).resume (n.render ++ rest) =
      (⟨.number n :: found, .between⟩ : Scan).resume rest := by
  obtain ⟨c, cs, p, q, hrender, hp, hrun, hq⟩ := n.render_spec
  have hstart : (⟨found, .between⟩ : Scan).stepChar c = some ⟨found, .number p⟩ :=
    start_of_start? hp
  rw [hrender, List.cons_append, resume_cons hstart, resume_number hrun, resume_finish hq hrest]

/-! ### Strings -/

theorem hexDigit?_hexChar (d : Nat) : hexDigit? (hexChar d) = some (d % 16) := by
  have hall : ∀ d : Fin 16, hexDigit? (Nat.digitChar d.val) = some d.val := by decide
  exact hall ⟨d % 16, Nat.mod_lt _ (by decide)⟩

/-- Four hexadecimal digits are read as the number they spell. -/
theorem resume_hexUnit {value : Nat} (hvalue : value < 0x10000) :
    (⟨found, .unit pieces 0 0⟩ : Scan).resume (hexUnit value ++ rest) =
      (⟨found, .string (ofUnit value :: pieces)⟩ : Scan).resume rest := by
  have hstep : ∀ digits sofar d, digits ≠ 3 →
      (⟨found, .unit pieces digits sofar⟩ : Scan).stepChar (hexChar d) =
        some ⟨found, .unit pieces (digits + 1) (16 * sofar + d % 16)⟩ := by
    intro digits sofar d hne
    simp only [stepChar, hexDigit?_hexChar, Option.map_some, hne, if_false]
  have hlast : ∀ sofar d, (⟨found, .unit pieces 3 sofar⟩ : Scan).stepChar (hexChar d) =
      some ⟨found, .string (ofUnit (16 * sofar + d % 16) :: pieces)⟩ := by
    intro sofar d
    simp only [stepChar, hexDigit?_hexChar, Option.map_some, if_true]
  have hspelt : 16 * (16 * (16 * (16 * 0 + value / 0x1000 % 16) + value / 0x100 % 16)
      + value / 0x10 % 16) + value % 16 = value := by omega
  rw [hexUnit, List.cons_append, List.cons_append, List.cons_append, List.cons_append,
    List.nil_append, resume_cons (hstep 0 _ _ (by decide)), resume_cons (hstep 1 _ _ (by decide)),
    resume_cons (hstep 2 _ _ (by decide)), resume_cons (hlast _ _), hspelt]

/-- An escape by a letter. -/
theorem resume_escape {letter : Char} (hletter : escaped? letter = some c) :
    (⟨found, .string pieces⟩ : Scan).resume ('\\' :: letter :: rest) =
      (⟨found, .string (.char c :: pieces)⟩ : Scan).resume rest := by
  have hu : letter ≠ 'u' := by
    rintro rfl
    cases hletter
  have hopen : (⟨found, .string pieces⟩ : Scan).stepChar '\\' =
      some ⟨found, .escape pieces⟩ := rfl
  have hclose : (⟨found, .escape pieces⟩ : Scan).stepChar letter =
      some ⟨found, .string (.char c :: pieces)⟩ := by
    simp only [stepChar, hu, hletter, if_false, Option.map_some]
  rw [resume_cons hopen, resume_cons hclose]

/-- An escape by a number. -/
theorem resume_unit {value : Nat} (hvalue : value < 0x10000) :
    (⟨found, .string pieces⟩ : Scan).resume ('\\' :: 'u' :: (hexUnit value ++ rest)) =
      (⟨found, .string (ofUnit value :: pieces)⟩ : Scan).resume rest := by
  have hopen : (⟨found, .string pieces⟩ : Scan).stepChar '\\' =
      some ⟨found, .escape pieces⟩ := rfl
  have hu : (⟨found, .escape pieces⟩ : Scan).stepChar 'u' = some ⟨found, .unit pieces 0 0⟩ := rfl
  rw [resume_cons hopen, resume_cons hu, resume_hexUnit hvalue]

theorem resume_escapeChar (c : Char) :
    (⟨found, .string pieces⟩ : Scan).resume (escapeChar c ++ rest) =
      (⟨found, .string (.char c :: pieces)⟩ : Scan).resume rest := by
  unfold escapeChar
  split_ifs with hquote hslash hb hf hn hr ht hcontrol
  · rw [hquote]
    exact resume_escape rfl
  · rw [hslash]
    exact resume_escape rfl
  · rw [hb]
    exact resume_escape rfl
  · rw [hf]
    exact resume_escape rfl
  · rw [hn]
    exact resume_escape rfl
  · rw [hr]
    exact resume_escape rfl
  · rw [ht]
    exact resume_escape rfl
  · have hunit : ofUnit c.toNat = .char c := by
      rw [ofUnit, dif_neg (by omega), Char.ofNat_toNat]
    rw [← hunit]
    exact resume_unit (by omega)
  · have hstep : (⟨found, .string pieces⟩ : Scan).stepChar c =
        some ⟨found, .string (.char c :: pieces)⟩ := by
      simp only [stepChar, hquote, hslash, hcontrol, if_false]
    exact resume_cons hstep

theorem resume_piece {piece : Piece} (h : piece ≠ .stray) :
    (⟨found, .string pieces⟩ : Scan).resume (piece.render ++ rest) =
      (⟨found, .string (piece :: pieces)⟩ : Scan).resume rest := by
  cases piece with
  | char c => exact resume_escapeChar c
  | surrogate offset =>
      have hunits : 0xd800 + offset.val < 0x10000 := by omega
      have hunit : ofUnit (0xd800 + offset.val) = .surrogate offset := by
        rw [ofUnit, dif_pos (by omega)]
        simp
      have hresume : (⟨found, .string pieces⟩ : Scan).resume
          ('\\' :: 'u' :: (hexUnit (0xd800 + offset.val) ++ rest)) = _ := resume_unit hunits
      rw [hunit] at hresume
      exact hresume
  | stray => exact absurd rfl h

theorem resume_pieces {more : List Piece} (h : Piece.stray ∉ more) :
    (⟨found, .string pieces⟩ : Scan).resume (more.flatMap Piece.render ++ rest) =
      (⟨found, .string (more.reverse ++ pieces)⟩ : Scan).resume rest := by
  induction more generalizing pieces with
  | nil => rfl
  | cons piece more ih =>
      have hpiece : piece ≠ .stray := fun heq => h (heq ▸ List.mem_cons_self)
      have hmore : Piece.stray ∉ more := fun hmem => h (List.mem_cons_of_mem _ hmem)
      rw [List.flatMap_cons, List.append_assoc, resume_piece hpiece, ih hmore]
      simp

theorem resume_renderString (h : Piece.stray ∉ pieces) :
    (⟨found, .between⟩ : Scan).resume (renderString pieces ++ rest) =
      (⟨.string pieces :: found, .between⟩ : Scan).resume rest := by
  have hopen : (⟨found, .between⟩ : Scan).stepChar '"' = some ⟨found, .string []⟩ := rfl
  have hclose : (⟨found, .string (pieces.reverse ++ [])⟩ : Scan).stepChar '"' =
      some ⟨.string pieces :: found, .between⟩ := by
    simp [stepChar]
  rw [renderString, List.cons_append, resume_cons hopen, List.append_assoc, resume_pieces h]
  exact resume_cons hclose

/-! ### Values -/

theorem resume_word {due : List Char} {token : Token} (hdue : due ≠ []) :
    (⟨found, .word due token⟩ : Scan).resume (due ++ rest) =
      (⟨token :: found, .between⟩ : Scan).resume rest := by
  induction due with
  | nil => exact absurd rfl hdue
  | cons d due ih =>
      cases due with
      | nil =>
          have hstep : (⟨found, .word [d] token⟩ : Scan).stepChar d =
              some ⟨token :: found, .between⟩ := by
            simp [stepChar]
          exact resume_cons hstep
      | cons d' due =>
          have hstep : (⟨found, .word (d :: d' :: due) token⟩ : Scan).stepChar d =
              some ⟨found, .word (d' :: due) token⟩ := by
            simp [stepChar]
          rw [List.cons_append, resume_cons hstep]
          exact ih (by simp)

/-- A token that is a word. -/
theorem resume_literal {due : List Char} {token : Token}
    (h : start found c = some ⟨found, .word due token⟩) (hdue : due ≠ []) :
    (⟨found, .between⟩ : Scan).resume (c :: due ++ rest) =
      (⟨token :: found, .between⟩ : Scan).resume rest := by
  have hopen : (⟨found, .between⟩ : Scan).stepChar c = some ⟨found, .word due token⟩ := h
  rw [List.cons_append, resume_cons hopen, resume_word hdue]

/-- A token of one character. -/
theorem resume_mark {token : Token} (h : start found c = some ⟨token :: found, .between⟩) :
    (⟨found, .between⟩ : Scan).resume (c :: cs) =
      (⟨token :: found, .between⟩ : Scan).resume cs :=
  resume_cons h

theorem delimited_renderItems (items : List Value) (rest : List Char) :
    Delimited (Value.renderItems items ++ ']' :: rest) := by
  cases items with
  | nil => exact delimited_cons (Or.inr (Or.inl rfl)) _
  | cons item items =>
      rw [Value.renderItems]
      exact delimited_cons (Or.inl rfl) _

theorem delimited_renderMembers (members : List (List Piece × Value)) (rest : List Char) :
    Delimited (Value.renderMembers members ++ '}' :: rest) := by
  cases members with
  | nil => exact delimited_cons (Or.inr (Or.inr rfl)) _
  | cons m members =>
      rw [Value.renderMembers]
      exact delimited_cons (Or.inl rfl) _

mutual

/-- The text of a value is cut into the tokens of the value. -/
theorem resume_render (v : Value) (hplain : v.Plain) (found : List Token) {rest : List Char}
    (hrest : Delimited rest) :
    (⟨found, .between⟩ : Scan).resume (v.render ++ rest) =
      (⟨v.tokens.reverse ++ found, .between⟩ : Scan).resume rest := by
  match v with
  | .null => exact resume_literal rfl (by simp)
  | .bool true => exact resume_literal rfl (by simp)
  | .bool false => exact resume_literal rfl (by simp)
  | .number n => exact resume_numeral n hrest
  | .string pieces => exact resume_renderString hplain
  | .array [] =>
      simp only [Value.render, Value.tokens, List.cons_append, List.nil_append]
      rw [resume_mark rfl, resume_mark rfl]
      rfl
  | .array (item :: items) =>
      obtain ⟨hitem, hitems⟩ := hplain
      -- behind the item stands a comma or the bracket, where a number in it ends
      simp only [Value.render, Value.tokens, List.cons_append, List.nil_append, List.append_assoc]
      rw [resume_mark rfl, resume_render item hitem _ (delimited_renderItems items rest),
        resume_renderItems items hitems, resume_mark rfl]
      simp
  | .object [] =>
      simp only [Value.render, Value.tokens, List.cons_append, List.nil_append]
      rw [resume_mark rfl, resume_mark rfl]
      rfl
  | .object ((name, value) :: members) =>
      obtain ⟨hname, hvalue, hmembers⟩ := hplain
      simp only [Value.render, Value.tokens, List.cons_append, List.nil_append, List.append_assoc]
      rw [resume_mark rfl, resume_renderString hname, resume_mark rfl,
        resume_render value hvalue _ (delimited_renderMembers members rest),
        resume_renderMembers members hmembers, resume_mark rfl]
      simp

theorem resume_renderItems (items : List Value) (hplain : Value.PlainItems items)
    (found : List Token) (rest : List Char) :
    (⟨found, .between⟩ : Scan).resume (Value.renderItems items ++ ']' :: rest) =
      (⟨(Value.itemTokens items).reverse ++ found, .between⟩ : Scan).resume (']' :: rest) := by
  match items with
  | [] => rfl
  | item :: items =>
      obtain ⟨hitem, hitems⟩ := hplain
      simp only [Value.renderItems, Value.itemTokens, List.cons_append, List.append_assoc]
      rw [resume_mark rfl, resume_render item hitem _ (delimited_renderItems items rest),
        resume_renderItems items hitems]
      simp

theorem resume_renderMembers (members : List (List Piece × Value))
    (hplain : Value.PlainMembers members) (found : List Token) (rest : List Char) :
    (⟨found, .between⟩ : Scan).resume (Value.renderMembers members ++ '}' :: rest) =
      (⟨(Value.memberTokens members).reverse ++ found, .between⟩ : Scan).resume
        ('}' :: rest) := by
  match members with
  | [] => rfl
  | (name, value) :: members =>
      obtain ⟨hname, hvalue, hmembers⟩ := hplain
      simp only [Value.renderMembers, Value.memberTokens, List.cons_append, List.append_assoc]
      rw [resume_mark rfl, resume_renderString hname, resume_mark rfl,
        resume_render value hvalue _ (delimited_renderMembers members rest),
        resume_renderMembers members hmembers]
      simp

end

end Scan

/-! ## Putting together -/

namespace Assembly

/-- An item may be the first one. -/
theorem run_firstItem (v : Value) (rest : List Token) :
    (firstItem stack).run (v.tokens ++ rest) =
      (item (.array [] :: stack)).run (v.tokens ++ rest) := by
  match v with
  | .null | .bool _ | .number _ | .string _ | .array [] | .array (_ :: _) | .object []
  | .object (_ :: _) =>
      simp only [Value.tokens, List.cons_append]
      rfl

mutual

/-- The tokens of a value make the value, whatever is open around it. -/
theorem run_tokens (v : Value) (stack : List Frame) (rest : List Token) :
    (item stack).run (v.tokens ++ rest) = (put v stack).run rest := by
  match v with
  | .null | .bool _ | .number _ | .string _ | .array [] | .object [] => rfl
  | .array (first :: items) =>
      simp only [Value.tokens, List.cons_append, List.append_assoc, List.nil_append]
      show (firstItem stack).run _ = _
      rw [run_firstItem, run_tokens first]
      exact run_itemTokens items [first] stack rest
  | .object ((label, value) :: members) =>
      simp only [Value.tokens, List.cons_append, List.append_assoc, List.nil_append]
      show (item (.object [] label :: stack)).run _ = _
      rw [run_tokens value]
      exact run_memberTokens members [(label, value)] stack rest

theorem run_itemTokens (items found : List Value) (stack : List Frame) (rest : List Token) :
    (afterItem found stack).run (Value.itemTokens items ++ .closeArray :: rest) =
      (put (.array (found.reverse ++ items)) stack).run rest := by
  match items with
  | [] =>
      rw [List.append_nil]
      rfl
  | first :: items =>
      simp only [Value.itemTokens, List.cons_append, List.append_assoc]
      show (item (.array found :: stack)).run _ = _
      rw [run_tokens first]
      show (afterItem (first :: found) stack).run _ = _
      rw [run_itemTokens items (first :: found)]
      simp

theorem run_memberTokens (members found : List (List Piece × Value)) (stack : List Frame)
    (rest : List Token) :
    (afterMember found stack).run (Value.memberTokens members ++ .closeObject :: rest) =
      (put (.object (found.reverse ++ members)) stack).run rest := by
  match members with
  | [] =>
      rw [List.append_nil]
      rfl
  | (label, value) :: members =>
      simp only [Value.memberTokens, List.cons_append, List.append_assoc]
      show (item (.object found label :: stack)).run _ = _
      rw [run_tokens value]
      show (afterMember ((label, value) :: found) stack).run _ = _
      rw [run_memberTokens members ((label, value) :: found)]
      simp

end

end Assembly

/-- The text of a value is read as the value. -/
theorem Value.parse?_text {v : Value} (hplain : v.Plain) : Value.parse? v.text = some v := by
  have hcut : Token.ofGlyphs? (Glyph.ofString v.text) = some v.tokens := by
    have hresume := Scan.resume_render v hplain [] Scan.delimited_nil
    rw [List.append_nil, List.append_nil] at hresume
    rw [Token.ofGlyphs?, Glyph.ofString, Value.text, String.toList_ofList]
    refine hresume.trans ?_
    show some v.tokens.reverse.reverse = _
    rw [List.reverse_reverse]
  have hput := Assembly.run_tokens v [] []
  rw [List.append_nil] at hput
  rw [Value.parse?, Value.ofGlyphs?, hcut, Option.bind_some, Value.ofTokens?, hput]
  rfl

/-! ## Typed values -/

theorem Value.plain_ofString (s : String) : (Value.ofString s).Plain := by
  show Piece.stray ∉ s.toList.map Piece.char
  simp

theorem Value.plain_ofMembers {members : List (String × Value)}
    (h : ∀ m ∈ members, m.2.Plain) : (Value.ofMembers members).Plain := by
  show Value.PlainMembers (members.map fun m => (Piece.ofString m.1, m.2))
  induction members with
  | nil => exact trivial
  | cons m members ih =>
      exact ⟨Value.plain_ofString m.1, h m List.mem_cons_self,
        ih fun other hother => h other (List.mem_cons_of_mem _ hother)⟩

/-- What is read back from its value is read back from its text. -/
theorem Codec.parse_text {α : Type} {codec : Codec α} {a : α} (hplain : (codec.encode a).Plain)
    (hback : codec.ReadsBack a) :
    (Value.parse? (codec.encode a).text).bind codec.decode = some a := by
  rw [Value.parse?_text hplain]
  exact hback

end BenchDepot.Json
