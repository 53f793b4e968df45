import SourceLedger.Proofs.Json.Text
import SourceLedger.Proofs.Value.Distinct

/-!
# What is written is read back

A value that is written without a fault is read back as it was, by a reader that may go as deep
as the writer did. The pieces of the writer are put together to one text; a value ends where a
comma or a line break follows, which is how the reader finds the end of a number, and the line
breaks and the blanks between items are skipped. The keys of a table have to be distinct: the
reader would replace the value of a key that comes again.
-/

namespace SourceLedger

open Value (distinct_list distinct_table)

theorem Text.ofChars_append (s t : List Char) :
    Text.ofChars (s ++ t) = Text.ofChars s ++ Text.ofChars t := List.map_append

theorem Text.ofChars_inj {s t : List Char} : Text.ofChars s = Text.ofChars t ↔ s = t :=
  (List.map_injective_iff.mpr fun _ _ h => CodePoint.scalar.inj h).eq_iff

namespace Json

namespace Write

/-- All of some pieces can be written, and together they are a text. -/
inductive Forms : List Piece → List Char → Prop
  | nil : Forms [] []
  | cons (c : List Char) {ps : List Piece} {s : List Char} (rest : Forms ps s) :
      Forms (.ok (Text.ofChars c) :: ps) (c ++ s)

variable {ps qs : List Piece} {s : List Char}

theorem Forms.exists_cons {p : Piece} (h : Forms (p :: ps) s) :
    ∃ c rest, p = .ok (Text.ofChars c) ∧ s = c ++ rest ∧ Forms ps rest := by
  cases h with
  | cons c rest => exact ⟨c, _, rfl, rfl, rest⟩

theorem Forms.chars_cons {c : List Char} (h : Forms (.ok (Text.ofChars c) :: ps) s) :
    ∃ rest, s = c ++ rest ∧ Forms ps rest := by
  obtain ⟨c', rest, hc, rfl, hrest⟩ := h.exists_cons
  exact ⟨rest, by rw [Text.ofChars_inj.mp (Except.ok.inj hc)], hrest⟩

theorem Forms.append (h : Forms (ps ++ qs) s) :
    ∃ a b, s = a ++ b ∧ Forms ps a ∧ Forms qs b := by
  induction ps generalizing s with
  | nil => exact ⟨[], s, rfl, .nil, h⟩
  | cons p ps ih =>
      cases h with
      | cons c rest =>
          obtain ⟨a, b, rfl, ha, hb⟩ := ih rest
          exact ⟨c ++ a, b, by rw [List.append_assoc], .cons c ha, hb⟩

/-- The bytes of a writing without a fault are those of the text that its pieces form. -/
theorem forms_of_fault_eq_none (h : (Written.ofPieces ps).fault = none) :
    ∃ s, Forms ps s ∧ (Written.ofPieces ps).bytes = Utf8.encodeChars s := by
  induction ps with
  | nil => exact ⟨[], .nil, rfl⟩
  | cons p ps ih =>
      rw [Written.ofPieces] at h ⊢
      cases hp : pieceBytes p with
      | error f =>
          rw [hp] at h
          cases h
      | ok bytes =>
          rw [hp] at h
          obtain ⟨s, hs, hbytes⟩ := ih h
          obtain ⟨t, rfl, encoded⟩ := bind_eq_ok hp
          split at encoded
          · next same =>
            cases encoded
            obtain ⟨c, rfl, rfl⟩ := Utf8.encode_eq_ok_iff.mp same
            exact ⟨c ++ s, .cons c hs, by simp [hbytes]⟩
          · cases encoded

def lineBreakChars (level : ℕ) : List Char := '\n' :: List.replicate (2 * level) ' '

theorem lineBreak_eq (level : ℕ) : lineBreak level = Text.ofChars (lineBreakChars level) := by
  simp [lineBreak, lineBreakChars, Text.ofChars, Text.replicate]

theorem unbroken_lineBreakChars (level : ℕ) : '\r' ∉ lineBreakChars level := by
  simp [lineBreakChars]

end Write

theorem skipBlanks_of_start {c : Char} (h : isBlank c = false) (s : List Char) :
    skipBlanks (c :: s) = c :: s :=
  List.dropWhile_cons_of_neg (by simp [h])

theorem skipBlanks_lineBreak (level : ℕ) {c : Char} (h : isBlank c = false) (s : List Char) :
    skipBlanks (Write.lineBreakChars level ++ c :: s) = c :: s := by
  have blank : ∀ b ∈ Write.lineBreakChars level, isBlank b = true := by
    intro b hb
    rcases List.mem_cons.mp hb with rfl | hb
    · rfl
    · rw [List.eq_of_mem_replicate hb]
      rfl
  rw [skipBlanks, List.dropWhile_append_of_pos blank]
  exact skipBlanks_of_start h s

namespace Read

variable {α : Type} {item : Reader α} {close : Char} {a : α} {as : List α}
  {s rest next after tail : List Char}

theorem separated_last (read : item s = .ok (a, rest)) (found : skipBlanks rest = close :: after) :
    separated item close s = .ok ([a], after) := by
  rw [separated, read]
  simp only [found, if_true]

theorem separated_more (read : item s = .ok (a, rest)) (found : skipBlanks rest = ',' :: after)
    (hclose : ',' ≠ close) (skipped : skipBlanks after = next) (shorter : next.length < s.length)
    (more : separated item close next = .ok (as, tail)) :
    separated item close s = .ok (a :: as, tail) := by
  rw [separated, read]
  subst skipped
  simp only [found, if_neg hclose, if_true, dif_pos shorter, more]
  rfl

/-- What the text of some items with their commas is for the reader, up to the line break and
the closing character behind them. -/
structure SpellsItems (item : Reader α) (close : Char) (s : List Char) (as : List α) : Prop where
  start : ∃ c t, s = c :: t ∧ Starts c
  unbroken : '\r' ∉ s
  reads : ∀ level rest, separated item close (s ++ Write.lineBreakChars level ++ close :: rest) =
    .ok (as, rest)

theorem delimited_lineBreak (level : ℕ) (s : List Char) :
    Delimited (Write.lineBreakChars level ++ s) := by
  rintro _ ⟨rfl⟩
  exact Or.inr rfl

theorem delimited_comma (s : List Char) : Delimited (',' :: s) := by
  rintro _ ⟨rfl⟩
  exact Or.inl rfl

theorem spellsItems_last (hclose : isBlank close = false) (h : Spells item s a) :
    SpellsItems item close s [a] where
  start := h.start
  unbroken := h.unbroken
  reads level rest := by
    rw [List.append_assoc]
    exact separated_last (h.reads _ (delimited_lineBreak level _))
      (skipBlanks_lineBreak level hclose rest)

theorem spellsItems_more {later : List Char} (hclose : ',' ≠ close) (h : Spells item s a)
    (more : SpellsItems item close later as) (level : ℕ) :
    SpellsItems item close (s ++ (',' :: Write.lineBreakChars level ++ later)) (a :: as) where
  start := by
    obtain ⟨c, t, rfl, hc⟩ := h.start
    exact ⟨c, _, rfl, hc⟩
  unbroken := by
    simp only [List.mem_append, List.mem_cons, not_or]
    exact ⟨h.unbroken, ⟨by decide, Write.unbroken_lineBreakChars level⟩, more.unbroken⟩
  reads level' rest := by
    obtain ⟨c, t, rfl, hc⟩ := more.start
    have split : s ++ (',' :: Write.lineBreakChars level ++ c :: t) ++
        Write.lineBreakChars level' ++ close :: rest =
        s ++ ',' :: (Write.lineBreakChars level ++
          c :: (t ++ Write.lineBreakChars level' ++ close :: rest)) := by
      simp
    have := more.reads level' rest
    rw [split]
    refine separated_more (h.reads _ (delimited_comma _)) (skipBlanks_of_start rfl _) hclose
      (skipBlanks_lineBreak level hc.not_blank _) ?_ (by simpa using this)
    simp only [List.length_append, List.length_cons]
    omega

/-- No atom starts like a container, so that it can be read at any depth. -/
theorem Spells.value {s : List Char} {v : Value} (h : Spells atom s v) (depth : ℕ) :
    Spells (value depth) s v where
  start := h.start
  unbroken := h.unbroken
  reads rest hr := by
    have read := h.reads rest hr
    obtain ⟨c, t, rfl, _⟩ := h.start
    rw [value_eq_atom]
    · exact read
    · rintro _ ⟨rfl⟩
      constructor <;>
      · rintro rfl
        cases read

theorem spells_constant {name : List Char} {v : Value} (h : (name, v) ∈ constants) :
    Spells atom name v := by
  simp only [constants, List.mem_cons, List.not_mem_nil, or_false, Prod.mk.injEq] at h
  rcases h with ⟨rfl, rfl⟩ | ⟨rfl, rfl⟩ | ⟨rfl, rfl⟩ | ⟨rfl, rfl⟩ | ⟨rfl, rfl⟩ | ⟨rfl, rfl⟩ <;>
    exact ⟨⟨_, _, rfl, by decide, by decide, by decide⟩, by decide, fun rest _ => rfl⟩

/-- Nothing stands between the brackets of an empty container. -/
theorem spells_empty (depth : ℕ) :
    Spells (value (depth + 1)) ['[', ']'] (.list []) ∧
      Spells (value (depth + 1)) ['\x7b', '\x7d'] (.table []) :=
  ⟨⟨⟨_, _, rfl, by decide, by decide, by decide⟩, by decide, fun rest _ => rfl⟩,
    ⟨⟨_, _, rfl, by decide, by decide, by decide⟩, by decide, fun rest _ => rfl⟩⟩

end Read

namespace Write

/-- Where something is written within a level, a level deeper can be read. -/
theorem within_eq_ok {level depth : ℕ} (hd : level + depth = Json.maxDepth) {p : Piece} {t : Text}
    (h : within level p = .ok t) : ∃ d, depth = d + 1 ∧ p = .ok t := by
  unfold within at h
  split_ifs at h with hl
  rw [maxDepth] at hl
  rw [Json.maxDepth] at hd
  exact ⟨depth - 1, by omega, h⟩

/-- Whether a value is written as a single piece. -/
def IsAtom : Value → Prop
  | .list (_ :: _) | .table (_ :: _) => False
  | _ => True

theorem pieces_of_isAtom {v : Value} (h : IsAtom v) (level : ℕ) (lead : Text) :
    pieces level lead v = [(lead ++ ·) <$> atom level v] := by
  unfold pieces
  split
  · exact absurd h id
  · exact absurd h id
  · rfl

theorem spells_atom {v : Value} (hv : IsAtom v) {level depth : ℕ}
    (hd : level + depth = Json.maxDepth) {t : List Char}
    (h : atom level v = .ok (Text.ofChars t)) : Read.Spells (Read.value depth) t v := by
  have chars {s : List Char} {t' : Text} (ht' : t' = Text.ofChars s) (h : t' = Text.ofChars t) :
      t = s := Text.ofChars_inj.mp (h.symm.trans ht')
  cases v with
  | null =>
      obtain rfl := chars (s := ['n', 'u', 'l', 'l']) rfl (Except.ok.inj h)
      exact (Read.spells_constant (by simp [Read.constants])).value depth
  | bool b =>
      cases b with
      | false =>
          obtain rfl := chars (s := ['f', 'a', 'l', 's', 'e']) rfl (Except.ok.inj h)
          exact (Read.spells_constant (by simp [Read.constants])).value depth
      | true =>
          obtain rfl := chars (s := ['t', 'r', 'u', 'e']) rfl (Except.ok.inj h)
          exact (Read.spells_constant (by simp [Read.constants])).value depth
  | int n =>
      simp only [atom, integer] at h
      split_ifs at h with hn
      obtain rfl := chars rfl (Except.ok.inj h)
      exact (Read.spells_integer (not_le.mp hn)).value depth
  | real x =>
      obtain ⟨s, text, reads⟩ := Read.spells_real x
      obtain rfl := chars text (Except.ok.inj h)
      exact reads.value depth
  | text s =>
      obtain ⟨cs, rfl, rfl⟩ := quoted_eq_ofChars (Except.ok.inj h)
      exact (Read.spells_text cs).value depth
  | moment m => cases h
  | list items =>
      cases items with
      | nil =>
          obtain ⟨depth, rfl, h⟩ := within_eq_ok hd h
          obtain rfl := chars (s := ['[', ']']) rfl (Except.ok.inj h)
          exact (Read.spells_empty depth).1
      | cons x xs => exact absurd hv id
  | table entries =>
      cases entries with
      | nil =>
          obtain ⟨depth, rfl, h⟩ := within_eq_ok hd h
          obtain rfl := chars (s := ['\x7b', '\x7d']) rfl (Except.ok.inj h)
          exact (Read.spells_empty depth).2
      | cons e es => exact absurd hv id

end Write

namespace Read

theorem enclosed_items {α : Type} {item : Reader α} {close : Char} {s : List Char} {as : List α}
    (h : SpellsItems item close s as) (hclose : ∀ c, Starts c → c ≠ close) (level level' : ℕ)
    (rest : List Char) :
    enclosed item close
        (Write.lineBreakChars level ++ s ++ Write.lineBreakChars level' ++ close :: rest) =
      .ok (as, rest) := by
  have read := h.reads level' rest
  obtain ⟨c, t, rfl, hc⟩ := h.start
  have skipped : skipBlanks (Write.lineBreakChars level ++ (c :: t) ++
      Write.lineBreakChars level' ++ close :: rest) =
      c :: (t ++ Write.lineBreakChars level' ++ close :: rest) := by
    simpa using skipBlanks_lineBreak level hc.not_blank
      (t ++ Write.lineBreakChars level' ++ close :: rest)
  rw [enclosed, skipped]
  simp only [if_neg (hclose c hc)]
  simpa using read

theorem spells_list {depth : ℕ} {s : List Char} {items : List Value}
    (h : SpellsItems (value depth) ']' s items) (level level' : ℕ) :
    Spells (value (depth + 1))
      ('[' :: (Write.lineBreakChars level ++ s ++ Write.lineBreakChars level' ++ [']']))
      (.list items) where
  start := ⟨'[', _, rfl, by decide, by decide, by decide⟩
  unbroken := by
    simp only [List.mem_cons, List.mem_append, List.not_mem_nil, not_or]
    exact ⟨by decide, ⟨⟨Write.unbroken_lineBreakChars level, h.unbroken⟩,
      Write.unbroken_lineBreakChars level'⟩, by decide, not_false⟩
  reads rest _ := by
    have read := enclosed_items h (fun _ hc => hc.not_bracket) level level' rest
    rw [List.cons_append, List.append_assoc _ [']'] rest]
    change ((enclosed (value depth) ']' _).map _) = _
    rw [List.singleton_append, read]
    rfl

theorem spells_table {depth : ℕ} {s : List Char} {entries : List (Text × Value)}
    (h : SpellsItems (entry (value depth)) '\x7d' s entries)
    (nodup : (Entries.keys entries).Nodup) (level level' : ℕ) :
    Spells (value (depth + 1))
      ('\x7b' :: (Write.lineBreakChars level ++ s ++ Write.lineBreakChars level' ++ ['\x7d']))
      (.table entries) where
  start := ⟨'\x7b', _, rfl, by decide, by decide, by decide⟩
  unbroken := by
    simp only [List.mem_cons, List.mem_append, List.not_mem_nil, not_or]
    exact ⟨by decide, ⟨⟨Write.unbroken_lineBreakChars level, h.unbroken⟩,
      Write.unbroken_lineBreakChars level'⟩, by decide, not_false⟩
  reads rest _ := by
    have read := enclosed_items h (fun _ hc => hc.not_brace) level level' rest
    rw [List.cons_append, List.append_assoc _ ['\x7d'] rest]
    change ((enclosed (entry (value depth)) '\x7d' _).map _) = _
    rw [List.singleton_append, read]
    simp only [Except.map, Entries.ofList_of_nodup nodup]

theorem spells_entry {depth : ℕ} {s : List Char} {v : Value} (h : Spells (value depth) s v)
    (cs : List Char) :
    Spells (entry (value depth)) ('"' :: (cs.flatMap Write.escapeChars ++ '"' :: ':' :: ' ' :: s))
      (Text.ofChars cs, v) where
  start := ⟨'"', _, rfl, by decide, by decide, by decide⟩
  unbroken := by
    have := (spells_text cs).unbroken
    simp only [List.mem_cons, List.mem_append, List.not_mem_nil, or_false, not_or] at this ⊢
    exact ⟨this.1, this.2.1, by decide, by decide, by decide, h.unbroken⟩
  reads rest hr := by
    have read := h.reads rest hr
    obtain ⟨c, t, rfl, hc⟩ := h.start
    have skipped : skipBlanks (' ' :: (c :: t ++ rest)) = c :: t ++ rest :=
      (List.dropWhile_cons_of_pos rfl).trans (skipBlanks_of_start hc.not_blank _)
    rw [List.cons_append, List.append_assoc, List.cons_append, List.cons_append, List.cons_append]
    simp only [entry, text_quoted, bind, Except.bind]
    rw [skipBlanks_of_start rfl]
    simp only [skipped, read]
    rfl

end Read

namespace Write

theorem depth_of_within {level depth : ℕ} {lead s : List Char} {ps : List Piece}
    (hd : level + depth = Json.maxDepth)
    (h : Forms (within level (.ok (Text.ofChars lead)) :: ps) s) :
    ∃ d t, depth = d + 1 ∧ s = lead ++ t ∧ Forms ps t := by
  obtain ⟨c, t, made, rfl, ht⟩ := h.exists_cons
  obtain ⟨d, deeper, same⟩ := within_eq_ok hd made
  rw [Text.ofChars_inj.mp (Except.ok.inj same)]
  exact ⟨d, t, deeper, rfl, ht⟩

theorem spells_single {v : Value} (hv : IsAtom v) {level depth : ℕ}
    (hd : level + depth = Json.maxDepth) (lead : List Char) {s : List Char}
    (h : Forms (pieces level (Text.ofChars lead) v) s) :
    ∃ t, s = lead ++ t ∧ Read.Spells (Read.value depth) t v := by
  rw [pieces_of_isAtom hv] at h
  obtain ⟨c, rest, made, rfl, hrest⟩ := h.exists_cons
  cases hrest
  obtain ⟨text, hp, hc⟩ := map_eq_ok made
  obtain ⟨a, t, rfl, ha, rfl⟩ := List.map_eq_append_iff.mp hc.symm
  obtain rfl := Text.ofChars_inj.mp (show Text.ofChars a = Text.ofChars lead from ha)
  exact ⟨t, by simp, spells_atom hv hd hp⟩

/-- The first entry of a table, with what follows its value. -/
theorem spells_firstEntry {key : Text} {s : List Char} {ps : List Piece}
    (h : Forms (.ok (quoted key) :: .ok ": " :: ps) s) :
    ∃ cs t, key = Text.ofChars cs ∧
      s = '"' :: (cs.flatMap escapeChars ++ '"' :: ':' :: ' ' :: t) ∧ Forms ps t := by
  obtain ⟨c, rest, hc, rfl, hrest⟩ := h.exists_cons
  obtain ⟨cs, rfl, rfl⟩ := quoted_eq_ofChars (Except.ok.inj hc)
  obtain ⟨t, rfl, ht⟩ := Forms.chars_cons (c := [':', ' ']) hrest
  exact ⟨cs, t, rfl, by simp, ht⟩

mutual

/-- The pieces of a value form a text that reads as the value. -/
theorem spells_pieces (v : Value) (hv : v.Distinct) {level depth : ℕ}
    (hd : level + depth = Json.maxDepth) (lead : List Char) {s : List Char}
    (h : Forms (pieces level (Text.ofChars lead) v) s) :
    ∃ t, s = lead ++ t ∧ Read.Spells (Read.value depth) t v := by
  match v with
  | .list (x :: xs) =>
      rw [pieces] at h
      obtain ⟨depth, t, rfl, rfl, ht⟩ := depth_of_within hd h
      obtain ⟨a, b, rfl, ha, hb⟩ := ht.append
      have bracket : "[" ++ lineBreak (level + 1) =
          Text.ofChars ('[' :: lineBreakChars (level + 1)) := by
        rw [lineBreak_eq]
        rfl
      rw [bracket] at ha
      obtain ⟨t, rfl, items⟩ := spells_listPieces (x :: xs) (by simp) (distinct_list.mp hv)
        (show level + 1 + depth = Json.maxDepth by omega) ha
      rw [lineBreak_eq] at hb
      obtain ⟨close, rfl, hclose⟩ := hb.chars_cons
      obtain ⟨none, rfl, hnone⟩ := Forms.chars_cons (c := [']']) hclose
      cases hnone
      exact ⟨_, rfl, by simpa using Read.spells_list items (level + 1) level⟩
  | .table (e :: es) =>
      rw [pieces] at h
      obtain ⟨depth, t, rfl, rfl, ht⟩ := depth_of_within hd h
      obtain ⟨inner, rfl, hinner⟩ := Forms.chars_cons (c := ['\x7b']) ht
      rw [lineBreak_eq] at hinner
      obtain ⟨body, rfl, hbody⟩ := hinner.chars_cons
      obtain ⟨a, b, rfl, ha, hb⟩ := hbody.append
      have entries := spells_tablePieces (e :: es) (by simp) (distinct_table.mp hv).2
        (show level + 1 + depth = Json.maxDepth by omega) ha
      rw [lineBreak_eq] at hb
      obtain ⟨close, rfl, hclose⟩ := hb.chars_cons
      obtain ⟨none, rfl, hnone⟩ := Forms.chars_cons (c := ['\x7d']) hclose
      cases hnone
      exact ⟨_, rfl, by
        simpa using Read.spells_table entries (distinct_table.mp hv).1 (level + 1) level⟩
  | .list [] | .table [] | .null | .bool _ | .int _ | .real _ | .text _ | .moment _ =>
      exact spells_single (by trivial) hd lead h

theorem spells_listPieces (items : List Value) (hne : items ≠ []) (hv : ∀ v ∈ items, v.Distinct)
    {level depth : ℕ} (hd : level + depth = Json.maxDepth) {lead s : List Char}
    (h : Forms (listPieces level (Text.ofChars lead) items) s) :
    ∃ t, s = lead ++ t ∧ Read.SpellsItems (Read.value depth) ']' t items := by
  match items with
  | [] => exact absurd rfl hne
  | x :: xs =>
      rw [listPieces] at h
      obtain ⟨a, b, rfl, ha, hb⟩ := h.append
      obtain ⟨t, rfl, first⟩ := spells_pieces x (hv x List.mem_cons_self) hd _ ha
      by_cases hxs : xs = []
      · subst hxs
        rw [listPieces] at hb
        cases hb
        exact ⟨t, by simp, Read.spellsItems_last rfl first⟩
      · have comma : "," ++ lineBreak level = Text.ofChars (',' :: lineBreakChars level) := by
          rw [lineBreak_eq]
          rfl
        rw [comma] at hb
        obtain ⟨later, rfl, more⟩ := spells_listPieces xs hxs
          (fun v hv' => hv v (List.mem_cons_of_mem x hv')) hd hb
        exact ⟨_, by rw [List.append_assoc], Read.spellsItems_more (by decide) first more level⟩

theorem spells_tablePieces (entries : List (Text × Value)) (hne : entries ≠ [])
    (hv : ∀ e ∈ entries, e.2.Distinct) {level depth : ℕ} (hd : level + depth = Json.maxDepth)
    {s : List Char} (h : Forms (tablePieces level entries) s) :
    Read.SpellsItems (Read.entry (Read.value depth)) '\x7d' s entries := by
  match entries with
  | [] => exact absurd rfl hne
  | [(key, x)] =>
      rw [tablePieces] at h
      obtain ⟨cs, t, rfl, rfl, ht⟩ := spells_firstEntry h
      obtain ⟨t, rfl, value⟩ := spells_pieces x (hv _ List.mem_cons_self) hd [] ht
      exact Read.spellsItems_last rfl (Read.spells_entry value cs)
  | (key, x) :: e :: es =>
      rw [tablePieces] at h
      obtain ⟨cs, t, rfl, rfl, ht⟩ := spells_firstEntry h
      obtain ⟨a, b, rfl, ha, hb⟩ := ht.append
      obtain ⟨t, rfl, value⟩ := spells_pieces x (hv _ List.mem_cons_self) hd [] ha
      have comma : "," ++ lineBreak level = Text.ofChars (',' :: lineBreakChars level) := by
        rw [lineBreak_eq]
        rfl
      rw [comma] at hb
      obtain ⟨rest, rfl, hrest⟩ := hb.chars_cons
      have later := spells_tablePieces (e :: es) (by simp)
        (fun e' he => hv e' (List.mem_cons_of_mem _ he)) hd hrest
      have all := Read.spellsItems_more (by decide) (Read.spells_entry value cs) later level
      simpa using all

end

end Write

/-- A value is read from its text. -/
theorem read_of_spells {s : List Char} {v : Value} (h : Read.Spells (Read.value maxDepth) s v) :
    read s = .ok v := by
  have value := h.reads [] (by rintro _ ⟨⟩)
  obtain ⟨c, t, rfl, hc⟩ := h.start
  have mark : c ≠ '\ufeff' := by
    rintro rfl
    rw [Read.value_eq_atom _ (by rintro _ ⟨rfl⟩; decide)] at value
    cases value
  rw [List.append_nil] at value
  unfold read
  split
  · next heq => exact absurd (List.cons.inj heq).1 mark
  · rw [skipBlanks_of_start hc.not_blank, value]
    rfl

/-- What can be written in full is read back as it was. -/
theorem read_of_write {v : Value} (hv : v.Distinct) (h : (write v).fault = none) :
    ∃ s, (write v).bytes = Utf8.encodeChars s ∧ '\r' ∉ s ∧ read s = .ok v := by
  obtain ⟨s, forms, bytes⟩ := Write.forms_of_fault_eq_none h
  obtain ⟨t, ht, spells⟩ := Write.spells_pieces v hv (Nat.zero_add maxDepth) []
    forms
  obtain rfl : s = t := ht
  exact ⟨s, bytes, spells.unbroken, read_of_spells spells⟩

end Json

end SourceLedger
