import Mathlib.Data.List.Perm.Basic
import PhantasmaPy.Carbon.MetadataRoundTrip
import PhantasmaPy.Carbon.ModuleLaws
import PhantasmaPy.Carbon.StructOrder
import PhantasmaPy.Carbon.TokenBuilding

/-! # What the token builders accept

Which metadata and which symbols the builders of a token take, and what is on the wire then.
-/

namespace PhantasmaPy.Carbon

open Wire CarbonWriter CarbonReader

/-! ## Icons -/

/-- The text starts with the literal, in any case, and goes on with the rest. -/
theorem matchLiteral_eq_some {literal text rest : Str} : matchLiteral literal text = some rest ↔
    ∃ head, text = head ++ rest ∧ List.Forall₂ (fun letter c => foldCase c = letter) literal head := by
  induction literal generalizing text with
  | nil =>
    constructor
    · intro found
      exact ⟨[], Option.some.inj found, .nil⟩
    · rintro ⟨head, rfl, folded⟩
      cases folded
      rfl
  | cons letter literal ih =>
    cases text with
    | nil =>
      constructor
      · intro found
        cases found
      · rintro ⟨head, same, folded⟩
        cases folded with
        | cons _ _ => cases same
    | cons c text =>
      rw [matchLiteral]
      -- a letter in the wrong place ends the match
      by_cases same : foldCase c = letter
      · rw [if_pos same, ih]
        constructor
        · rintro ⟨head, rfl, folded⟩
          exact ⟨c :: head, rfl, .cons same folded⟩
        · rintro ⟨head, whole, folded⟩
          cases folded with
          | cons _ folded =>
            obtain ⟨-, rfl⟩ := List.cons.inj whole
            exact ⟨_, rfl, folded⟩
      · rw [if_neg same]
        constructor
        · intro found
          cases found
        · rintro ⟨head, whole, folded⟩
          cases folded with
          | cons here _ =>
            obtain ⟨rfl, -⟩ := List.cons.inj whole
            exact absurd here same

theorem foldCase_comma {c : CodePoint} : foldCase c = 44 ↔ c = 44 := by
  unfold foldCase
  split_ifs with capital dotted long
  · refine iff_of_false (fun same => ?_) fun same => by subst same; revert capital; decide
    have value := congrArg Fin.val same
    have small : c.val + 32 < 0x110000 := by
      have high : c.val ≤ 90 := capital.2
      omega
    rw [Fin.val_add, show ((32 : CodePoint) : Nat) = 32 from rfl, Nat.mod_eq_of_lt small] at value
    have low : 65 ≤ c.val := capital.1
    change c.val + 32 = 44 at value
    omega
  · refine iff_of_false (by decide) fun same => by subst same; revert dotted; decide
  · refine iff_of_false (by decide) fun same => by subst same; revert long; decide
  · exact Iff.rfl

/-- What follows the first comma follows a literal that ends in its only comma. -/
theorem payload_after {front start payload : Str} (plain : (44 : CodePoint) ∉ front)
    (folded : List.Forall₂ (fun letter c => foldCase c = letter) (front ++ [44]) start) :
    ((start ++ payload).dropWhile fun c => c ≠ 44).drop 1 = payload := by
  induction front generalizing start with
  | nil =>
    cases folded with
    | cons here rest =>
      cases rest
      obtain rfl := foldCase_comma.mp here
      rfl
  | cons letter front ih =>
    obtain ⟨other, plain⟩ := not_or.mp (List.mem_cons.not.mp plain)
    cases folded with
    | @cons _ c _ start here rest =>
      have solid : c ≠ 44 := fun same => other ((foldCase_comma.mpr same).symm.trans here)
      have passed : ((c :: (start ++ payload)).dropWhile fun c => c ≠ 44) =
          (start ++ payload).dropWhile fun c => c ≠ 44 := List.dropWhile_cons_of_pos (decide_eq_true solid)
      rw [List.cons_append, passed]
      exact ih plain rest

/-- The literals are small letters that end in their only comma. -/
theorem iconHeads_spelled : ∀ head ∈ iconHeads,
    (head = head.dropLast ++ [44] ∧ (44 : CodePoint) ∉ head.dropLast) ∧ head.map foldCase = head := by
  decide +kernel

/-- The text is a data URI of one of the kinds, with a payload that decodes. -/
def IconUri (validBase64 : Str → Bool) (value : Str) : Prop :=
  ∃ head start payload, head ∈ iconHeads ∧ value = start ++ payload ∧
    List.Forall₂ (fun letter c => foldCase c = letter) head start ∧ payload ≠ [] ∧ validBase64 payload = true

theorem validateIconDataUri_eq_ok {validBase64 : Str → Bool} {value : Str} :
    validateIconDataUri validBase64 value = .ok () ↔ IconUri validBase64 value := by
  unfold validateIconDataUri
  dsimp only
  constructor
  · intro accepted
    split at accepted
    next => cases accepted
    next headed =>
      simp only [List.all_eq_true, not_forall, Option.isNone_iff_eq_none] at headed
      obtain ⟨head, member, found⟩ := headed
      obtain ⟨payload, found⟩ := Option.ne_none_iff_exists'.mp found
      obtain ⟨start, rfl, folded⟩ := matchLiteral_eq_some.mp found
      obtain ⟨⟨ends, plain⟩, -⟩ := iconHeads_spelled head member
      -- the source looks for the payload behind the first comma, which is where the head ends
      rw [payload_after plain (ends ▸ folded)] at accepted
      split at accepted
      next => cases accepted
      next filled =>
        split at accepted
        next valid =>
          exact ⟨head, start, payload, member, rfl, folded, fun empty => filled (List.isEmpty_iff.mpr empty), valid⟩
        next => cases accepted
  · rintro ⟨head, start, payload, member, rfl, folded, filled, valid⟩
    obtain ⟨⟨ends, plain⟩, -⟩ := iconHeads_spelled head member
    have found := matchLiteral_eq_some.mpr ⟨start, (rfl : start ++ payload = start ++ payload), folded⟩
    have headed : ¬ (iconHeads.all fun head => (matchLiteral head (start ++ payload)).isNone) = true := by
      intro all
      have none := List.all_eq_true.mp all head member
      rw [found] at none
      cases none
    rw [if_neg headed, payload_after plain (ends ▸ folded), if_neg (mt List.isEmpty_iff.mp filled), if_pos valid]

/-- The URI of an image is an icon, whatever its bytes. -/
theorem iconUri_b64encode {head : Str} (member : head ∈ iconHeads) {data : Bytes} (filled : data ≠ []) :
    IconUri isBase64 (head ++ b64encode data) := by
  obtain ⟨-, small⟩ := iconHeads_spelled head member
  have same : List.Forall₂ Eq (head.map foldCase) head := List.forall₂_eq_eq_eq ▸ small
  have folded : List.Forall₂ (fun letter c => foldCase c = letter) head head :=
    (List.forall₂_map_left_iff.mp same).flip
  have written : b64encode data ≠ [] := by
    intro empty
    have read := b64decode_b64encode data
    rw [empty] at read
    exact filled (Option.some.inj read).symm
  exact ⟨head, head, b64encode data, member, rfl, folded, written, isBase64_b64encode data⟩

/-! ## Metadata -/

theorem VMNamedDynamicVariable.make_eq_ok {name : Str} {vmType : VMType} {value : Data}
    {field : VMNamedDynamicVariable} :
    make name vmType value = .ok field ↔ ∃ text, SmallString.new name = .ok text ∧ field = ⟨text, ⟨vmType, value⟩⟩ := by
  unfold make
  rw [except_bind_eq_ok]
  refine exists_congr fun text => and_congr_right fun _ => ⟨fun same => (Except.ok.inj same).symm, fun same => ?_⟩
  rw [same]
  rfl

section TextStructs

variable {items : List (Str × Str)} {named : List VMNamedDynamicVariable} {conv : Conversions}

/-- The fields are the items, as strings. -/
def TextFieldsOf (items : List (Str × Str)) (named : List VMNamedDynamicVariable) : Prop :=
  List.Forall₂ (fun item field => VMNamedDynamicVariable.make item.1 .STRING (.str item.2) = .ok field) items named

theorem TextFieldsOf.pairs (made : TextFieldsOf items named) :
    named.map (fun field => (field.name.value, field.value)) =
      items.map fun item => (item.1, ⟨.STRING, .str item.2⟩) := by
  induction made with
  | nil => rfl
  | cons here _ ih =>
    obtain ⟨text, built, rfl⟩ := VMNamedDynamicVariable.make_eq_ok.mp here
    rw [List.map_cons, List.map_cons, ih, SmallString.new_eq_ok built]

theorem TextFieldsOf.names (made : TextFieldsOf items named) :
    (named.map fun field => field.name.value) = items.map Prod.fst := by
  have first := congrArg (List.map Prod.fst) made.pairs
  rwa [List.map_map, List.map_map] at first

/-- A field of the struct is a string that one of the items has. -/
theorem TextFieldsOf.value (made : TextFieldsOf items named) {field : VMNamedDynamicVariable} (member : field ∈ named) :
    ∃ item ∈ items, field.value = ⟨.STRING, .str item.2⟩ := by
  have pair := List.mem_map_of_mem (f := fun field : VMNamedDynamicVariable => (field.name.value, field.value)) member
  rw [made.pairs] at pair
  obtain ⟨item, inside, same⟩ := List.mem_map.mp pair
  exact ⟨item, inside, (Prod.mk.inj same).2.symm⟩

theorem TextFieldsOf.get (made : TextFieldsOf items named) (name : Str) :
    VMDynamicStruct.get ⟨named⟩ name = (items.lookup name).map fun text => ⟨.STRING, .str text⟩ := by
  unfold VMDynamicStruct.get
  induction made with
  | nil => rfl
  | @cons item field items named here _ ih =>
    obtain ⟨text, built, rfl⟩ := VMNamedDynamicVariable.make_eq_ok.mp here
    obtain ⟨key, value⟩ := item
    have spelled : text.value = key := SmallString.new_eq_ok built
    rw [List.find?_cons, List.lookup_cons]
    by_cases same : text.value = name
    · rw [decide_eq_true same, ← spelled, same, beq_self_eq_true]
      rfl
    · rw [decide_eq_false same, ← spelled, beq_false_of_ne (Ne.symm same)]
      exact ih

theorem zeroFree_of_emits {text : Str} {out : Bytes}
    (emits : (VMDynamicVariable.writeCarbon conv ⟨.STRING, .str text⟩).Emits () out) : ZeroFree text := by
  obtain ⟨_, rest, -, leaf, -⟩ := Put.emits_seq.mp emits
  obtain ⟨_, _, _, body, -, -⟩ := Put.emits_bind.mp leaf
  obtain ⟨_, _, written, -, -⟩ := Put.emits_seq.mp body
  change (do
    writeStringZ (← Put.check (conv.toStr ((Data.str text).or (.str [])))) : CarbonWriter Unit).Emits () _ at written
  rw [or_str, check_bind (rfl : conv.toStr (.str text) = .ok text)] at written
  obtain ⟨free, raw, encoded, -⟩ := emits_writeStringZ.mp written
  exact ⟨free, raw, encoded⟩

/-- A struct of strings is read as it is, with the fields sorted. -/
theorem TextFieldsOf.conveys (made : TextFieldsOf items named) (small : items.length < 2 ^ 31)
    (free : ∀ item ∈ items, ZeroFree item.2) :
    Conveys (VMDynamicStruct.writeCarbon conv ⟨named⟩) () VMDynamicStruct.readCarbon ⟨sortFields named⟩ := by
  have written : Written .STRUCT none (.struct ⟨named⟩) := by
    refine .struct (made.length_eq ▸ small) fun field member => ?_
    obtain ⟨item, inside, same⟩ := made.value member
    rw [same]
    exact .leaf ⟨item.2, free item inside, rfl⟩
  have plain : normalFields named = named := by
    rw [normalFields_eq]
    refine (List.map_congr_left fun field member => ?_).trans (List.map_id named)
    obtain ⟨item, -, same⟩ := made.value member
    obtain ⟨name, value⟩ := field
    obtain rfl : value = ⟨.STRING, .str item.2⟩ := same
    rfl
  have image := plainElement_conveys conv (written.conveys conv)
  rwa [VMDynamicStruct.normal, plain] at image

theorem TextFieldsOf.writable (made : TextFieldsOf items named) {out : Bytes}
    (emits : (VMDynamicStruct.writeCarbon conv ⟨named⟩).Emits () out) :
    items.length < 2 ^ 31 ∧ ∀ item ∈ items, ZeroFree item.2 := by
  unfold VMDynamicStruct.writeCarbon writeStruct VMDynamicStruct.writers at emits
  rw [sorted_fieldWriters] at emits
  obtain ⟨small, each⟩ := writeArray_written.mp ⟨out, emits⟩
  rw [List.length_map, (sortFields_perm named).length_eq, ← made.length_eq] at small
  refine ⟨small, fun item inside => ?_⟩
  have pair := List.mem_map_of_mem (f := fun item : Str × Str =>
    (item.1, (⟨.STRING, .str item.2⟩ : VMDynamicVariable))) inside
  rw [← made.pairs] at pair
  obtain ⟨field, member, same⟩ := List.mem_map.mp pair
  have sorted := (sortFields_perm named).mem_iff.mpr member
  obtain ⟨image, written⟩ := each _ (List.mem_map_of_mem sorted)
  obtain ⟨_, rest, -, value, -⟩ := Put.emits_seq.mp written
  obtain ⟨name, held⟩ := field
  obtain rfl : held = ⟨.STRING, .str item.2⟩ := (Prod.mk.inj same).2
  exact zeroFree_of_emits value

end TextStructs

namespace TextFields

/-- Every required field has a text that is more than space, and the icon is one. -/
def Complete (validBase64 : Str → Bool) (self : TextFields) : Prop :=
  (∀ name ∈ requiredMetadata, ∃ value, self.get name = some value ∧ strip value ≠ []) ∧
    ∃ icon, self.get (Str.ofString "icon") = some icon ∧ IconUri validBase64 icon

/-- The names are short and the values free of zero characters, so that they have a wire form. -/
def Writable (self : TextFields) : Prop :=
  self.items.length < 2 ^ 31 ∧
    ∀ item ∈ self.items, (∃ raw, encodeText item.1 = .ok raw ∧ raw.length ≤ 255) ∧ ZeroFree item.2

variable {self : TextFields}

theorem mem_of_get {name value : Str} (found : self.get name = some value) : name ∈ self.items.map Prod.fst := by
  obtain ⟨before, after, split, -⟩ := List.lookup_eq_some_iff.mp found
  rw [split]
  simp

theorem requireField_eq_ok {name : Str} :
    requireField self name = .ok () ↔ ∃ value, self.get name = some value ∧ strip value ≠ [] := by
  unfold requireField
  cases found : self.get name with
  | none =>
    refine iff_of_false (fun accepted => by cases accepted) ?_
    rintro ⟨_, ⟨⟩, -⟩
  | some value =>
    rw [Option.getD_some]
    by_cases empty : strip value = []
    · rw [empty, if_pos List.isEmpty_nil]
      refine iff_of_false (fun accepted => by cases accepted) ?_
      rintro ⟨_, same, filled⟩
      obtain rfl := Option.some.inj same
      exact filled empty
    · rw [if_neg (mt List.isEmpty_iff.mp empty)]
      exact iff_of_true rfl ⟨value, rfl, empty⟩

/-- The required fields are four, so that the check of the number of fields refuses nothing more. -/
theorem enough_of_required
    (present : ∀ name ∈ requiredMetadata, ∃ value, self.get name = some value ∧ strip value ≠ []) :
    requiredMetadata.length ≤ self.items.length := by
  have distinct : requiredMetadata.Nodup := by simp [requiredMetadata]
  have inside : requiredMetadata ⊆ self.items.map Prod.fst := by
    intro name member
    obtain ⟨value, found, -⟩ := present name member
    exact mem_of_get found
  have length := (List.subperm_of_subset distinct inside).length_le
  rwa [List.length_map] at length

theorem build_eq_ok {conv : Conversions} {validBase64 : Str → Bool} {raw : Bytes} :
    buildTokenMetadata conv validBase64 self = .ok raw ↔ self.Complete validBase64 ∧
      ∃ named, TextFieldsOf self.items named ∧ serialize (VMDynamicStruct.writeCarbon conv ⟨named⟩) = .ok raw := by
  unfold buildTokenMetadata Complete TextFieldsOf
  by_cases few : self.items.length < requiredMetadata.length
  · rw [if_pos few]
    refine iff_of_false (fun accepted => by cases accepted) ?_
    rintro ⟨⟨present, -⟩, -⟩
    exact absurd (enough_of_required present) (Nat.not_le.mpr few)
  · rw [if_neg few]
    change (forM requiredMetadata (requireField self) >>= _) = _ ↔ _
    simp only [except_bind_eq_ok, mapM_eq_ok]
    constructor
    · rintro ⟨⟨⟩, required, ⟨⟩, checked, named, made, written⟩
      have present := fun name member => requireField_eq_ok.mp (forM_eq_ok.mp required name member)
      obtain ⟨value, found, -⟩ := present (Str.ofString "icon") (by simp [requiredMetadata])
      rw [found] at checked
      exact ⟨⟨present, value, found, validateIconDataUri_eq_ok.mp checked⟩, named, made, written⟩
    · rintro ⟨⟨present, value, found, icon⟩, named, made, written⟩
      have required := forM_eq_ok.mpr fun name member => requireField_eq_ok.mpr (present name member)
      refine ⟨(), required, (), ?_, named, made, written⟩
      rw [found]
      exact validateIconDataUri_eq_ok.mpr icon

/-- The struct on the wire is the mapping. -/
theorem reads {conv : Conversions} {validBase64 : Str → Bool} {raw : Bytes}
    (built : buildTokenMetadata conv validBase64 self = .ok raw) :
    ∃ struct, deserialize VMDynamicStruct.readCarbon raw = .ok struct ∧
      ∀ name, struct.get name = (self.get name).map fun text => ⟨.STRING, .str text⟩ := by
  obtain ⟨-, named, made, written⟩ := build_eq_ok.mp built
  have emits := serialize_eq_ok.mp written
  obtain ⟨small, free⟩ := made.writable emits
  obtain ⟨out, emits', parses⟩ := @TextFieldsOf.conveys _ _ conv made small free
  obtain rfl := (emits'.unique emits).2
  refine ⟨_, deserialize_eq_ok.mpr parses.yields, fun name => ?_⟩
  rw [get_sortFields, made.get, TextFields.get]

theorem get_eq_some {name value : Str} : self.get name = some value ↔ (name, value) ∈ self.items := by
  constructor
  · intro found
    obtain ⟨before, after, split, -⟩ := List.lookup_eq_some_iff.mp found
    rw [split]
    simp
  · intro member
    obtain ⟨before, after, split⟩ := List.append_of_mem member
    have distinct := self.distinct
    rw [split, List.map_append, List.map_cons] at distinct
    refine List.lookup_eq_some_iff.mpr ⟨before, after, split, fun item earlier => ?_⟩
    rw [bne_iff_ne]
    rintro rfl
    exact (List.nodup_append.mp distinct).2.2 item.1 (List.mem_map_of_mem earlier) item.1 List.mem_cons_self rfl

/-- Mappings with the same entries have the same items, maybe in another order. -/
theorem perm_of_get {other : TextFields} (same : ∀ name, other.get name = self.get name) :
    other.items.Perm self.items := by
  refine (List.perm_ext_iff_of_nodup (List.Nodup.of_map _ other.distinct) (List.Nodup.of_map _ self.distinct)).mpr ?_
  rintro ⟨name, value⟩
  rw [← get_eq_some, ← get_eq_some, same]

end TextFields

/-- The builder takes exactly the complete fields that have a wire form.  What it returns is read as a struct of
the fields, and depends on nothing but the entries. -/
theorem tokenMetadata_exact (conv : Conversions) (validBase64 : Str → Bool) (fields : TextFields) :
    ((∃ raw, buildTokenMetadata conv validBase64 fields = .ok raw) ↔ fields.Complete validBase64 ∧ fields.Writable) ∧
      (∀ raw, buildTokenMetadata conv validBase64 fields = .ok raw →
        ∃ struct, deserialize VMDynamicStruct.readCarbon raw = .ok struct ∧
          ∀ name, struct.get name = (fields.get name).map fun text => ⟨.STRING, .str text⟩) ∧
      ∀ (other : TextFields) (raw : Bytes), buildTokenMetadata conv validBase64 fields = .ok raw →
        (buildTokenMetadata conv validBase64 other = .ok raw ↔ ∀ name, other.get name = fields.get name) := by
  refine ⟨⟨?_, ?_⟩, fun raw => TextFields.reads, fun other raw built => ⟨fun again name => ?_, fun same => ?_⟩⟩
  · rintro ⟨raw, built⟩
    obtain ⟨complete, named, made, written⟩ := TextFields.build_eq_ok.mp built
    obtain ⟨small, free⟩ := made.writable (serialize_eq_ok.mp written)
    refine ⟨complete, small, fun item inside => ⟨?_, free item inside⟩⟩
    have name := List.mem_map_of_mem (f := Prod.fst) inside
    rw [← made.names] at name
    obtain ⟨field, -, spelled⟩ := List.mem_map.mp name
    exact spelled ▸ field.name.fits
  · rintro ⟨complete, small, each⟩
    have short (item : Str × Str) (inside : item ∈ fields.items) :
        VMNamedDynamicVariable.make item.1 .STRING (.str item.2) =
          .ok ⟨⟨item.1, (each item inside).1⟩, ⟨.STRING, .str item.2⟩⟩ :=
      VMNamedDynamicVariable.make_eq_ok.mpr ⟨_, SmallString.new_value ⟨item.1, (each item inside).1⟩, rfl⟩
    -- no name is too long, so that each field is made
    obtain ⟨named, made⟩ : ∃ named, TextFieldsOf fields.items named := by
      cases run : fields.items.mapM fun item => VMNamedDynamicVariable.make item.1 .STRING (.str item.2) with
      | ok named => exact ⟨named, mapM_eq_ok.mp run⟩
      | error e =>
        obtain ⟨before, item, after, split, -, failed⟩ := mapM_eq_error.mp run
        cases failed.symm.trans (short item (by rw [split]; simp))
    obtain ⟨out, emits, -⟩ := @TextFieldsOf.conveys _ _ conv made small fun item inside => (each item inside).2
    exact ⟨out, TextFields.build_eq_ok.mpr ⟨complete, named, made, serialize_eq_ok.mpr emits⟩⟩
  · obtain ⟨struct, read, gets⟩ := TextFields.reads built
    obtain ⟨struct', read', gets'⟩ := TextFields.reads again
    obtain rfl := Except.ok.inj (read.symm.trans read')
    have both := (gets' name).symm.trans (gets name)
    refine Option.map_injective (fun left right equal => ?_) both
    exact Data.str.inj (VMDynamicVariable.mk.inj equal).2
  · obtain ⟨complete, named, made, written⟩ := TextFields.build_eq_ok.mp built
    -- the writer sorts the fields, so that their order in the dictionary does not matter
    have perm := TextFields.perm_of_get same
    obtain ⟨named', made', permuted⟩ := List.perm_comp_forall₂ perm made
    have distinct : DistinctNames named' := by
      unfold DistinctNames
      rw [TextFieldsOf.names made']
      exact other.distinct
    refine TextFields.build_eq_ok.mpr ⟨?_, named', made', ?_⟩
    · unfold TextFields.Complete
      simp only [same]
      exact complete
    · rwa [writeCarbon_perm conv permuted distinct]

/-! ## Symbols and descriptions -/

/-- One to 255 of the letters A to Z. -/
def SymbolText (symbol : Str) : Prop := symbol ≠ [] ∧ symbol.length ≤ 255 ∧ ∀ c ∈ symbol, 65 ≤ c ∧ c ≤ 90

theorem isSymbol_iff {symbol : Str} : isSymbol symbol = true ↔ symbol ≠ [] ∧ ∀ c ∈ symbol, 65 ≤ c ∧ c ≤ 90 := by
  unfold isSymbol
  simp only [Bool.and_eq_true, Bool.not_eq_true', List.isEmpty_eq_false_iff, List.all_eq_true, decide_eq_true_eq]

/-- Letters have one byte each. -/
theorem encodeText_letters {symbol : Str} (letters : ∀ c ∈ symbol, 65 ≤ c ∧ c ≤ 90) :
    ∃ raw, encodeText symbol = .ok raw ∧ raw.length = symbol.length := by
  have ascii : ∀ c ∈ symbol, c.val < 128 := by
    intro c member
    have high : c.val ≤ 90 := (letters c member).2
    omega
  obtain ⟨raw, encoded, length⟩ := Str.encodeUtf8_ascii ascii
  exact ⟨raw, encodeText_eq_ok.mpr encoded, length⟩

theorem checkTokenSymbol_eq_ok {symbol : Str} : checkTokenSymbol symbol = .ok () ↔ SymbolText symbol := by
  unfold checkTokenSymbol SymbolText
  by_cases empty : symbol = []
  · rw [empty, if_pos List.isEmpty_nil]
    exact iff_of_false (fun accepted => by cases accepted) fun absurd => absurd.1 rfl
  · rw [if_neg (mt List.isEmpty_iff.mp empty)]
    rw [except_bind_eq_ok]
    constructor
    · rintro ⟨raw, encoded, accepted⟩
      split at accepted
      next => cases accepted
      next short =>
        split at accepted
        next isSymbol =>
          obtain ⟨filled, letters⟩ := isSymbol_iff.mp isSymbol
          -- capital letters take one byte each, so that the limit on bytes is one on letters
          obtain ⟨raw', encoded', length⟩ := encodeText_letters letters
          obtain rfl := Except.ok.inj (encoded.symm.trans encoded')
          exact ⟨filled, length ▸ Nat.le_of_not_gt short, letters⟩
        next => cases accepted
    · rintro ⟨filled, short, letters⟩
      obtain ⟨raw, encoded, length⟩ := encodeText_letters letters
      refine ⟨raw, encoded, ?_⟩
      rw [if_neg (by omega), if_pos (isSymbol_iff.mpr ⟨filled, letters⟩)]

theorem tokenFlags_eq_ok {isNft : Bool} {maxSupply : IntX} {tokenSchemas : Bytes} {flags : Int} :
    tokenFlags isNft maxSupply tokenSchemas = .ok flags ↔
      (isNft = true → maxSupply.is8ByteSafe = true ∧ tokenSchemas ≠ []) ∧
        flags = if isNft then 2 else if maxSupply.is8ByteSafe then 0 else 1 := by
  unfold tokenFlags
  cases isNft <;> cases maxSupply.is8ByteSafe <;> cases tokenSchemas <;> simp [eq_comm]

/-- The builder takes exactly the symbols of capital letters, with metadata; a token of instances needs schemas and
a supply of eight bytes. -/
theorem buildTokenInfo_eq_ok {symbol : Str} {maxSupply : IntX} {isNft : Bool} {decimals : Int} {owner : Bytes32}
    {metadata : Option Bytes} {tokenSchemas : Bytes} {info : TokenInfo} :
    buildTokenInfo symbol maxSupply isNft decimals owner metadata tokenSchemas = .ok info ↔
      SymbolText symbol ∧ (isNft = true → maxSupply.is8ByteSafe = true ∧ tokenSchemas ≠ []) ∧
        info.symbol.value = symbol ∧ metadata = some info.metadata ∧ info.maxSupply = maxSupply ∧
        info.decimals = decimals ∧ info.owner = owner ∧ info.tokenSchemas = tokenSchemas ∧
        info.flags = if isNft then 2 else if maxSupply.is8ByteSafe then 0 else 1 := by
  unfold buildTokenInfo
  rw [except_bind_eq_ok]
  constructor
  · rintro ⟨⟨⟩, checked, built⟩
    cases metadata with
    | none => cases built
    | some metadata =>
      obtain ⟨flags, flagged, built⟩ := except_bind_eq_ok.mp built
      obtain ⟨text, made, built⟩ := except_bind_eq_ok.mp built
      obtain rfl := Except.ok.inj built
      obtain ⟨needs, rfl⟩ := tokenFlags_eq_ok.mp flagged
      exact ⟨checkTokenSymbol_eq_ok.mp checked, needs, SmallString.new_eq_ok made, rfl, rfl, rfl, rfl, rfl, rfl⟩
  · rintro ⟨isText, needs, rfl, rfl, rfl, rfl, rfl, rfl, flags⟩
    refine ⟨(), checkTokenSymbol_eq_ok.mpr isText, except_bind_eq_ok.mpr
      ⟨info.flags, tokenFlags_eq_ok.mpr ⟨needs, flags⟩, except_bind_eq_ok.mpr ⟨info.symbol, info.symbol.new_value, ?_⟩⟩⟩
    rfl

/-! ## Names of types -/

/-- Every type has a name, and a declaration with this name is one of the type. -/
theorem vmTypeFromString_vmTypeName (vmType : VMType) :
    ∃ name, vmTypeName vmType = .ok name ∧ vmTypeFromString name = .ok vmType := by
  cases vmType <;> exact ⟨_, rfl, by decide +kernel⟩

end PhantasmaPy.Carbon
