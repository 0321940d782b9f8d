import Mathlib.Data.List.Forall2
import Pushdown.Metadata.Snapshot
import Pushdown.Proofs.Json.Value
import Pushdown.Proofs.Postgres.Discovery

/-!
# `Proofs.Metadata.Snapshot` — a snapshot and its text

A snapshot is exchanged as JSON text, and each of its columns holds a JSON text of its own, the notes, as a string
inside. Every part of a snapshot is taken by its reader from the form in which it is written, so the whole comes
back from its text, and so do the notes from theirs, however the names in them look.

## Contents

* `takes_int32`, `decodeWord_int` — numbers of 32 bits.
* `takes_canonicalType`, `takes_column`, `takes_table`, `takes_snapshot` — the parts of a snapshot, the smallest first.
* `Snapshot.parse_text`, `ColumnNotes.parse_text` — the two texts.
* `Adapter.snapshot_survives_text` — what a catalogue's columns say after writing and reading the snapshot.
-/

namespace Pushdown

open Json (Takes)

/-! ## Numbers of 32 bits -/

theorem fits_of_bounds {i : Int} (hleast : -2147483648 ≤ i) (hgreatest : i ≤ 4294967295) : Json.Fits i := by
  have hlow : (4294967295 : Int) ≤ Json.maxSignificand := by decide
  have hhigh : -(twoPow 63 : Int) ≤ -2147483648 := by decide
  exact ⟨Int.le_trans hhigh hleast, Int.le_trans hgreatest hlow⟩

theorem takes_int32 (n : Int32) : Takes Json.Reader.int32 0 (.int n.toInt) n := by
  have hleast : -2147483648 ≤ n.toInt := n.le_toInt
  have hgreatest : n.toInt < 2147483648 := n.toInt_lt
  have hcheck : Json.Reader.signed32.check (.integer n.toInt) = .ok n.toInt :=
    Json.Reader.Width.check_integer hleast (Int.le_of_lt_add_one hgreatest)
  have htakes : Takes Json.Reader.int32 0 (.int n.toInt) (.ofInt n.toInt) :=
    (Json.takes_integer (fits_of_bounds hleast (by omega)) hcheck).map
  rwa [Int32.ofInt_toInt] at htakes

theorem fits_word (n : UInt32) : Json.Fits n.toNat := by
  have hgreatest : n.toNat < 4294967296 := n.toNat_lt
  exact fits_of_bounds (by omega) (by omega)

theorem decodeWord_int (n : UInt32) : CanonicalType.decodeWord (.int n.toNat) = .ok n := by
  have hgreatest : n.toNat < 4294967296 := n.toNat_lt
  have hcheck : Json.Decode.integer Json.Reader.unsigned32 (.int n.toNat) = .ok (n.toNat : Int) :=
    Json.Reader.Width.check_integer (Int.natCast_nonneg _) (Int.le_of_lt_add_one (Int.ofNat_lt.2 hgreatest))
  rw [CanonicalType.decodeWord, hcheck]
  show Except.ok (UInt32.ofNat (n.toNat : Int).toNat) = _
  rw [Int.toNat_natCast, UInt32.ofNat_toNat]

theorem variant_charset (c : Charset) : Json.Decode.variant Charset.variants (.string c.name) = .ok c := by
  cases c <;> rfl

/-! ## The parts of a snapshot -/

theorem store_word {f : UInt32 → CanonicalType} (n : UInt32) :
    (do return f (← CanonicalType.decodeWord (.int n.toNat))) = Except.ok (f n) := by
  rw [decodeWord_int]
  rfl

theorem store_charset {f : Charset → CanonicalType} (c : Charset) :
    (do return f (← Json.Decode.variant Charset.variants (.string c.name))) = Except.ok (f c) := by
  rw [variant_charset]
  rfl

/-- The parts of a type are single values, and none of them is called like the tag. -/
theorem members_scalar (t : CanonicalType) :
    ∀ m ∈ t.members, m.1 ≠ Json.Reader.tagName ∧ m.2.isScalar := by
  cases t <;> simp [CanonicalType.members, Json.Reader.tagName, Json.isScalar, fits_word]

/-- A type is read back: by its tag, and by the members that its tag asks for. -/
theorem takes_canonicalType (t : CanonicalType) : Takes CanonicalType.reader 1 t.toJson t := by
  have hms := fun m hm => And.imp_right Json.takes_value (members_scalar t m hm)
  cases t with
  | boolean => exact Json.takes_tagged rfl hms rfl
  | exactNumeric p s =>
    exact Json.takes_tagged rfl hms (Json.Shape.decode_object
      (Json.Shape.storeMembers_cons rfl rfl (store_word p) <|
        Json.Shape.storeMembers_cons rfl rfl (store_word s) rfl) rfl)
  | double => exact Json.takes_tagged rfl hms rfl
  | date => exact Json.takes_tagged rfl hms rfl
  | timestamp z => exact Json.takes_tagged rfl hms rfl
  | character n c =>
    exact Json.takes_tagged rfl hms (Json.Shape.decode_object
      (Json.Shape.storeMembers_cons rfl rfl (store_word n) <|
        Json.Shape.storeMembers_cons rfl rfl (store_charset c) rfl) rfl)
  | maxCharacter c =>
    exact Json.takes_tagged rfl hms (Json.Shape.decode_object
      (Json.Shape.storeMembers_cons rfl rfl (store_charset c) rfl) rfl)

/-- A column is read back, with the comment left out if there is none. -/
theorem takes_column (c : ColumnMetadata) : Takes ColumnMetadata.reader 2 c.toJson c := by
  obtain ⟨name, notes, type, nullable, comment⟩ := c
  have htext : ∀ s, Takes Json.Reader.text 1 (.string s) s := fun s => (Json.takes_text s).mono (Nat.zero_le 1)
  have hnullable : Takes Json.Reader.boolean 1 (.bool nullable) nullable :=
    (Json.takes_boolean nullable).mono (Nat.zero_le 1)
  cases comment with
  | none =>
    exact Json.takes_record (.cons rfl rfl (htext name).map <| .cons rfl rfl (htext notes).map <|
      .cons rfl rfl (takes_canonicalType type).map <| .cons rfl rfl hnullable.map .nil) rfl
  | some comment =>
    have hcomment := (Json.takes_optional_text comment).mono (Nat.zero_le 1)
    exact Json.takes_record (.cons rfl rfl (htext name).map <| .cons rfl rfl (htext notes).map <|
      .cons rfl rfl (takes_canonicalType type).map <| .cons rfl rfl hnullable.map <|
      .cons rfl rfl hcomment.map .nil) rfl

/-- A table is read back, its columns in order. -/
theorem takes_table (t : TableMetadata) : Takes TableMetadata.reader 4 t.toJson t := by
  obtain ⟨name, columns, comment⟩ := t
  have hname := (Json.takes_text name).mono (Nat.zero_le 3)
  have hcolumns := Json.takes_list fun c (_ : c ∈ columns) => takes_column c
  cases comment with
  | none => exact Json.takes_record (.cons rfl rfl hname.map <| .cons rfl rfl hcolumns.map .nil) rfl
  | some comment =>
    have hcomment := (Json.takes_optional_text comment).mono (Nat.zero_le 3)
    exact Json.takes_record (.cons rfl rfl hname.map <| .cons rfl rfl hcolumns.map <|
      .cons rfl rfl hcomment.map .nil) rfl

theorem takes_snapshot (s : Snapshot) : Takes Snapshot.reader 6 s.toJson s := by
  have htables := Json.takes_list fun t (_ : t ∈ s.tables) => takes_table t
  exact Json.takes_record (.cons rfl rfl htables.map .nil) rfl

theorem takes_notes (n : ColumnNotes) : Takes ColumnNotes.reader 1 n.toJson n :=
  Json.takes_record
    (.cons rfl rfl (takes_int32 n.typeCode).map <| .cons rfl rfl (Json.takes_text n.typeName).map .nil) rfl

/-! ## The texts -/

/-- A snapshot is read back from its text. -/
theorem Snapshot.parse_text (s : Snapshot) : Snapshot.parse s.text = .ok s :=
  Json.run_render (takes_snapshot s) (by decide)

/-- Notes are read back from their text. -/
theorem ColumnNotes.parse_text (n : ColumnNotes) : ColumnNotes.parse n.text = .ok n :=
  Json.run_render (takes_notes n) (by decide)

/-! ## The columns of a catalogue -/

/-- The exposed column has the folded name of the remote one, and its notes tell the code and the name of the remote
type. -/
def TellsType (folding : CaseFolding) (c : RemoteColumn) (column : ColumnMetadata) : Prop :=
  column.name = folding.foldColumn c.name ∧ column.remoteType = .ok ⟨c.type.code, c.type.name⟩

theorem tellsType_exposedColumn (folding : CaseFolding) (c : RemoteColumn) :
    TellsType folding c (exposedColumn folding c) :=
  ⟨rfl, ColumnNotes.parse_text _⟩

/-- **Snapshots survive their text.** Every snapshot is read back from its text as it was. So if a catalogue is read,
and its snapshot is written as text and read again, then table by table and column by column, in the order of the
catalogue, the notes of a column tell the code and the name of the remote type that the column came with. -/
theorem Adapter.snapshot_survives_text :
    (∀ s : Snapshot, Snapshot.parse s.text = .ok s) ∧
    ∀ (a : Adapter) (catalogue : List RemoteTable) (snapshot : Snapshot),
      (a.readMetadata catalogue).result = .ok snapshot →
        ∃ again, Snapshot.parse snapshot.text = .ok again ∧
          List.Forall₂
            (fun t table => table.name = a.folding.foldTable t.name ∧
              List.Forall₂ (TellsType a.folding) t.columns table.columns)
            (catalogue.filter a.filter.exposes) again.tables := by
  refine ⟨Snapshot.parse_text, ?_⟩
  intro a catalogue snapshot hread
  refine ⟨snapshot, Snapshot.parse_text snapshot, ?_⟩
  have hdiscover : (discover a.filter catalogue).result = .ok snapshot :=
    Traced.result_mapError_eq_ok_iff.mp hread
  obtain ⟨-, htables⟩ := discover_eq_ok_iff.mp hdiscover
  rw [htables, List.forall₂_map_right_iff, List.forall₂_same]
  intro t _
  refine ⟨rfl, ?_⟩
  show List.Forall₂ (TellsType a.folding) t.columns (t.columns.map (exposedColumn a.folding))
  rw [List.forall₂_map_right_iff, List.forall₂_same]
  exact fun c _ => tellsType_exposedColumn a.folding c

/-- Quotes, backslashes and control characters in names, comments and the name of a remote type. -/
theorem Adapter.hostile_snapshot_survives_text :
    let a : Adapter := { properties := { entries := [] }, filter := ⟨.convertToUpper, true⟩ }
    let type : RemoteType := { code := -2147483648, name := "\"\\\x00\n\\u0041😀" }
    let column : RemoteColumn := { name := "\\\"", type, comment := some "\x1f\\" }
    let catalogue := [RemoteTable.mk "Skipped" [] none, RemoteTable.mk "t \"\\" [column] (some "")]
    ∃ snapshot again, (a.readMetadata catalogue).result = .ok snapshot ∧
      Snapshot.parse snapshot.text = .ok again ∧
      ∃ table exposed, again.tables = [table] ∧ table.columns = [exposed] ∧
        exposed.remoteType = .ok ⟨-2147483648, "\"\\\x00\n\\u0041😀"⟩ := by
  intro a type column catalogue
  have hread : (a.readMetadata catalogue).result.toOption.isSome := by decide +kernel
  have hfilter : catalogue.filter a.filter.exposes = [RemoteTable.mk "t \"\\" [column] (some "")] := by
    decide +kernel
  obtain ⟨snapshot, hsnapshot⟩ := Option.isSome_iff_exists.mp hread
  have hresult := Outcome.eq_ok_of_toOption hsnapshot
  obtain ⟨again, hparse, htables⟩ := snapshot_survives_text.2 a catalogue snapshot hresult
  rw [hfilter, List.forall₂_cons_left_iff] at htables
  obtain ⟨table, rest, ⟨-, hcolumns⟩, hrest, htables⟩ := htables
  rw [List.forall₂_nil_left_iff] at hrest
  rw [List.forall₂_cons_left_iff] at hcolumns
  obtain ⟨exposed, others, ⟨-, hexposed⟩, hothers, hcolumns⟩ := hcolumns
  rw [List.forall₂_nil_left_iff] at hothers
  subst hrest hothers
  exact ⟨snapshot, again, hresult, hparse, table, exposed, htables, hcolumns, hexposed⟩

end Pushdown
