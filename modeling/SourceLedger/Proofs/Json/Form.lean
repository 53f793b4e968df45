import SourceLedger.Proofs.Json.RoundTrip
import SourceLedger.Proofs.Results

/-!
# Which values can be written

Writing a value runs to its end exactly if the value fits: no integer in it is too long, no text
has a surrogate, there is no moment, and there is room for the containers inside one another.
-/

namespace SourceLedger

theorem Text.isScalar_iff {t : Text} : t.isScalar = true ↔ ∃ cs, t = Text.ofChars cs := by
  induction t with
  | nil => exact ⟨fun _ => ⟨[], rfl⟩, fun _ => rfl⟩
  | cons c t ih =>
      rw [isScalar, List.all_cons, ← isScalar, Bool.and_eq_true, ih]
      cases c with
      | scalar c =>
          constructor
          · rintro ⟨_, cs, rfl⟩
            exact ⟨c :: cs, rfl⟩
          · rintro ⟨cs, h⟩
            obtain ⟨c', cs, rfl, h, rfl⟩ := List.map_eq_cons_iff.mp h.symm
            exact ⟨rfl, cs, rfl⟩
      | surrogate i =>
          constructor
          · rintro ⟨h, _⟩
            cases h
          · rintro ⟨cs, h⟩
            obtain ⟨c', cs, rfl, h, rfl⟩ := List.map_eq_cons_iff.mp h.symm
            cases h

namespace Value

mutual

/-- A value can be written where there is room for so many containers inside one another. -/
def Fits (room : Nat) : Value → Prop
  | .int n => n.natAbs < Json.Write.integerLimit
  | .text t => t.isScalar = true
  | .moment _ => False
  | .list items => 0 < room ∧ ItemsFit (room - 1) items
  | .table entries => 0 < room ∧ EntriesFit (room - 1) entries
  | .null | .bool _ | .real _ => True

def ItemsFit (room : Nat) : List Value → Prop
  | [] => True
  | v :: rest => Fits room v ∧ ItemsFit room rest

def EntriesFit (room : Nat) : List (Text × Value) → Prop
  | [] => True
  | (key, v) :: rest => (key.isScalar = true ∧ Fits room v) ∧ EntriesFit room rest

end

variable {room : Nat}

theorem itemsFit_iff {items : List Value} :
    ItemsFit room items ↔ ∀ v ∈ items, v.Fits room := by
  induction items with
  | nil => simp [ItemsFit]
  | cons v rest ih => simp [ItemsFit, ih]

theorem entriesFit_iff {entries : List (Text × Value)} :
    EntriesFit room entries ↔ ∀ e ∈ entries, e.1.isScalar = true ∧ e.2.Fits room := by
  induction entries with
  | nil => simp [EntriesFit]
  | cons e rest ih =>
      obtain ⟨key, v⟩ := e
      simp [EntriesFit, ih]

theorem fits_table {entries : List (Text × Value)} :
    (Value.table entries).Fits (room + 1) ↔
      ∀ e ∈ entries, e.1.isScalar = true ∧ e.2.Fits room := by
  rw [Fits, entriesFit_iff]
  exact and_iff_right room.succ_pos

mutual

/-- A value could be written if only there were room for it. -/
def HasForm : Value → Prop
  | .int n => n.natAbs < Json.Write.integerLimit
  | .text t => t.isScalar = true
  | .moment _ => False
  | .list items => ItemsHaveForm items
  | .table entries => EntriesHaveForm entries
  | .null | .bool _ | .real _ => True

def ItemsHaveForm : List Value → Prop
  | [] => True
  | v :: rest => HasForm v ∧ ItemsHaveForm rest

def EntriesHaveForm : List (Text × Value) → Prop
  | [] => True
  | (key, v) :: rest => (key.isScalar = true ∧ HasForm v) ∧ EntriesHaveForm rest

end

mutual

/-- There is room for a value where it is not nested more deeply. -/
theorem fits_iff (v : Value) (room : Nat) : v.Fits room ↔ v.HasForm ∧ v.nesting ≤ room := by
  match v with
  | .list items =>
      rw [Fits, HasForm, nesting, itemsFit_iff_haveForm items, and_left_comm]
      exact and_congr_right fun _ => by omega
  | .table entries =>
      rw [Fits, HasForm, nesting, entriesFit_iff_haveForm entries, and_left_comm]
      exact and_congr_right fun _ => by omega
  | .null | .bool _ | .int _ | .real _ | .text _ | .moment _ => simp [Fits, HasForm, nesting]

theorem itemsFit_iff_haveForm (items : List Value) (room : Nat) :
    ItemsFit room items ↔ ItemsHaveForm items ∧ nestingOfItems items ≤ room := by
  match items with
  | [] => simp [ItemsFit, ItemsHaveForm, nestingOfItems]
  | v :: rest =>
      rw [ItemsFit, ItemsHaveForm, nestingOfItems, fits_iff v, itemsFit_iff_haveForm rest,
        Nat.max_le]
      exact and_and_and_comm

theorem entriesFit_iff_haveForm (entries : List (Text × Value)) (room : Nat) :
    EntriesFit room entries ↔ EntriesHaveForm entries ∧ nestingOfEntries entries ≤ room := by
  match entries with
  | [] => simp [EntriesFit, EntriesHaveForm, nestingOfEntries]
  | (key, v) :: rest =>
      rw [EntriesFit, EntriesHaveForm, nestingOfEntries, fits_iff v, entriesFit_iff_haveForm rest,
        Nat.max_le]
      exact (and_congr_left' and_assoc.symm).trans and_and_and_comm

end

end Value

namespace Json

namespace Write

variable {ps qs : List Piece} {level room : ℕ}

/-- A piece is a text that can be encoded. -/
def Fine (p : Piece) : Prop := ∃ cs, p = .ok (Text.ofChars cs)

theorem fine_chars (cs : List Char) : Fine (.ok (Text.ofChars cs)) := ⟨cs, rfl⟩

theorem not_fine_error (f : WriteFault) : ¬ Fine (.error f) := by
  rintro ⟨_, h⟩
  cases h

theorem fine_of_forms {s : List Char} (h : Forms ps s) : ∀ p ∈ ps, Fine p := by
  induction h with
  | nil => nofun
  | cons c _ ih => exact List.forall_mem_cons.mpr ⟨fine_chars c, ih⟩

theorem pieceBytes_ofChars (cs : List Char) :
    pieceBytes (.ok (Text.ofChars cs)) = .ok (Utf8.encodeChars cs) := by
  simp only [pieceBytes, bind, Except.bind, Utf8.encode_eq_ok_iff.mpr ⟨cs, rfl, rfl⟩]

theorem fine_string (s : String) : Fine (.ok s) := fine_chars s.toList

/-- Writing runs to its end if all pieces are fine. -/
theorem fault_eq_none_iff : (Written.ofPieces ps).fault = none ↔ ∀ p ∈ ps, Fine p := by
  constructor
  · intro h
    obtain ⟨s, forms, _⟩ := forms_of_fault_eq_none h
    exact fine_of_forms forms
  · intro h
    induction ps with
    | nil => rfl
    | cons p ps ih =>
        obtain ⟨⟨cs, rfl⟩, rest⟩ := List.forall_mem_cons.mp h
        rw [Written.ofPieces, pieceBytes_ofChars]
        exact ih rest

theorem fine_within {p : Piece} : Fine (within level p) ↔ level < maxDepth ∧ Fine p := by
  unfold within
  split_ifs with h
  · exact (and_iff_right h).symm
  · exact iff_of_false (not_fine_error _) fun both => h both.1

theorem fine_lead (lead : List Char) {p : Piece} :
    Fine ((Text.ofChars lead ++ ·) <$> p) ↔ Fine p := by
  constructor
  · rintro ⟨cs, h⟩
    obtain ⟨t, rfl, heq⟩ := map_eq_ok h
    obtain ⟨_, b, _, _, rfl⟩ := List.map_eq_append_iff.mp heq.symm
    exact ⟨b, rfl⟩
  · rintro ⟨cs, rfl⟩
    exact ⟨lead ++ cs, congrArg _ (Text.ofChars_append lead cs).symm⟩

theorem fine_quoted {t : Text} : Fine (.ok (quoted t)) ↔ t.isScalar = true := by
  rw [Text.isScalar_iff]
  constructor
  · rintro ⟨s, h⟩
    obtain ⟨cs, rfl, _⟩ := quoted_eq_ofChars (Except.ok.inj h)
    exact ⟨cs, rfl⟩
  · rintro ⟨cs, rfl⟩
    exact ⟨_, congrArg _ (quoted_ofChars cs)⟩

theorem lt_maxDepth_iff (hd : level + room = Json.maxDepth) : level < maxDepth ↔ 0 < room := by
  rw [maxDepth]
  rw [Json.maxDepth] at hd
  omega

theorem fine_atom {v : Value} (hv : IsAtom v) (hd : level + room = Json.maxDepth) :
    Fine (atom level v) ↔ v.Fits room := by
  cases v with
  | null => exact iff_of_true ⟨_, rfl⟩ trivial
  | bool b => cases b <;> exact iff_of_true ⟨_, rfl⟩ trivial
  | int n =>
      simp only [atom, integer, Value.Fits]
      split_ifs with long
      · exact iff_of_false (not_fine_error _) (not_lt.mpr long)
      · exact iff_of_true ⟨_, rfl⟩ (not_le.mp long)
  | real x =>
      obtain ⟨s, text, _⟩ := Read.spells_real x
      exact iff_of_true ⟨s, congrArg _ text⟩ trivial
  | text t => exact fine_quoted
  | moment m => exact iff_of_false (not_fine_error _) id
  | list items =>
      cases items with
      | nil =>
          rw [atom, fine_within, lt_maxDepth_iff hd, Value.Fits]
          exact and_congr_right fun _ => iff_of_true ⟨_, rfl⟩ trivial
      | cons x xs => exact absurd hv id
  | table entries =>
      cases entries with
      | nil =>
          rw [atom, fine_within, lt_maxDepth_iff hd, Value.Fits]
          exact and_congr_right fun _ => iff_of_true ⟨_, rfl⟩ trivial
      | cons e es => exact absurd hv id

theorem fine_lineBreak (level : ℕ) : Fine (.ok (lineBreak level)) :=
  ⟨_, congrArg _ (lineBreak_eq level)⟩

/-- A container that is not empty is fine if there is room for it and its items are fine. -/
theorem fine_container {lead : List Char} (closing : Char) :
    (∀ p ∈ within level (.ok (Text.ofChars lead)) ::
        (ps ++ [.ok (lineBreak level), .ok (Text.ofChars [closing])]), Fine p) ↔
      level < maxDepth ∧ ∀ p ∈ ps, Fine p := by
  simp only [List.forall_mem_cons, List.forall_mem_append, fine_within, fine_chars,
    fine_lineBreak, and_true, List.not_mem_nil, false_implies, implies_true]

mutual

/-- The pieces of a value are fine exactly if the value fits into the levels that are left. -/
theorem fine_pieces (v : Value) {level room : ℕ} (hd : level + room = Json.maxDepth)
    (lead : List Char) :
    (∀ p ∈ pieces level (Text.ofChars lead) v, Fine p) ↔ v.Fits room := by
  match v with
  | .list (x :: xs) =>
      have bracket : "[" ++ lineBreak (level + 1) =
          Text.ofChars ('[' :: lineBreakChars (level + 1)) := by
        rw [lineBreak_eq]
        rfl
      rw [pieces, bracket]
      refine (fine_container ']').trans ?_
      rw [lt_maxDepth_iff hd, Value.Fits, Value.itemsFit_iff]
      exact and_congr_right fun pos => fine_listPieces (x :: xs) (by omega) _
  | .table (e :: es) =>
      rw [pieces]
      refine (fine_container '\x7d').trans ?_
      rw [List.forall_mem_cons, List.forall_mem_cons, and_iff_right (fine_string "\x7b"),
        and_iff_right (fine_lineBreak _), lt_maxDepth_iff hd, Value.Fits, Value.entriesFit_iff]
      exact and_congr_right fun pos => fine_tablePieces (e :: es) (by omega)
  | .list [] | .table [] | .null | .bool _ | .int _ | .real _ | .text _ | .moment _ =>
      rw [pieces_of_isAtom (by trivial), List.forall_mem_singleton, fine_lead]
      exact fine_atom (by trivial) hd

theorem fine_listPieces (items : List Value) {level room : ℕ}
    (hd : level + room = Json.maxDepth) (lead : List Char) :
    (∀ p ∈ listPieces level (Text.ofChars lead) items, Fine p) ↔ ∀ v ∈ items, v.Fits room := by
  match items with
  | [] => simp [listPieces]
  | x :: xs =>
      have comma : "," ++ lineBreak level = Text.ofChars (',' :: lineBreakChars level) := by
        rw [lineBreak_eq]
        rfl
      rw [listPieces, comma, List.forall_mem_append, List.forall_mem_cons, fine_pieces x hd,
        fine_listPieces xs hd]

theorem fine_tablePieces (entries : List (Text × Value)) {level room : ℕ}
    (hd : level + room = Json.maxDepth) :
    (∀ p ∈ tablePieces level entries, Fine p) ↔
      ∀ e ∈ entries, e.1.isScalar = true ∧ e.2.Fits room := by
  match entries with
  | [] => simp [tablePieces]
  | [(key, x)] =>
      rw [tablePieces, List.forall_mem_cons, List.forall_mem_cons, fine_quoted,
        and_iff_right (fine_string ": "), List.forall_mem_singleton]
      exact and_congr_right fun _ => fine_pieces x hd []
  | (key, x) :: e :: es =>
      have comma : "," ++ lineBreak level = Text.ofChars (',' :: lineBreakChars level) := by
        rw [lineBreak_eq]
        rfl
      rw [tablePieces, comma, List.cons_append, List.cons_append, List.forall_mem_cons,
        List.forall_mem_cons, List.forall_mem_append, List.forall_mem_cons, fine_quoted,
        and_iff_right (fine_string ": "), and_iff_right (fine_chars _),
        fine_tablePieces (e :: es) hd]
      refine Iff.trans ?_ List.forall_mem_cons.symm
      rw [and_assoc]
      exact and_congr_right fun _ => and_congr_left fun _ => fine_pieces x hd []

end

end Write

/-- A value is written in full exactly if it fits. -/
theorem fault_eq_none_iff {v : Value} : (write v).fault = none ↔ v.Fits maxDepth :=
  Write.fault_eq_none_iff.trans (Write.fine_pieces v (Nat.zero_add maxDepth) [])

end Json

end SourceLedger
