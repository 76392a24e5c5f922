import CalendarSeries.LabelFilter.Reading
import CalendarSeries.Proofs.Number.Whole
import CalendarSeries.Proofs.Outcome
import CalendarSeries.Proofs.Text.Utf8
import CalendarSeries.Proofs.Value.Map
import CalendarSeries.Series.Info
/-!
The labels that a server tells of a series. A text comes through as it is unless it is digits after
minus signs, which are read as a number. The number is written as the text was if the text is
written as numbers are, and then an equality filter made of the labels asks for the same value.
-/
namespace CalendarSeries.Info

open Text
open Decimal (signText)

variable {value listing : Value} {content : String} {before after pairs : List Value}

/-- A text, or the bytes that encode it. -/
inductive Tells : Value → String → Prop
  | text (content : String) : Tells (.text content) content
  | bytes (content : String) : Tells (.bytes (utf8 content)) content

theorem Tells.decoded (tells : Tells value content) : value.decoded = .ok (.text content) := by
  cases tells with
  | text => rfl
  | bytes =>
    have decoded := decodeUtf8_utf8 content.toList
    rw [String.ofList_toList] at decoded
    simp only [Value.decoded, decoded, String.ofList_toList]

/-- What a label's text is read as: itself, or the number of digits after one minus sign or none. -/
inductive IsRead (content : String) : Value → Prop
  | text (other : ¬IsRun (content.toList.dropWhile (· == '-'))) : IsRead content (.text content)
  | number {negative : Bool} {digits : List Char}
      (spelled : content.toList = signText negative ++ digits) (run : IsRun digits)
      (legible : ¬Whole.IsUnread digits) :
      IsRead content (.int (Whole.signed negative (digitsValue (decimals digits))))

theorem dropWhile_signText (negative : Bool) {digits : List Char} (run : IsRun digits) :
    (signText negative ++ digits).dropWhile (· == '-') = digits := by
  have bare : digits.dropWhile (· == '-') = digits := by
    cases digits with
    | nil => rfl
    | cons c cs =>
      rw [List.dropWhile_cons_of_neg (by simpa using run.ne (by decide) c List.mem_cons_self)]
  cases negative with
  | false => exact bare
  | true => exact bare

theorem all_isDigit_iff {digits : List Char} :
    (digits.all isDigit && !digits.isEmpty) = true ↔ IsRun digits := by
  simp [isRun_iff]

theorem labelValue_eq (read : IsRead content value) : labelValue (.text content) = .ok value := by
  cases read with
  | text other =>
    have mixed := mt all_isDigit_iff.1 other
    simp only [labelValue, if_neg mixed]
  | @number negative digits spelled run legible =>
    have bare := dropWhile_signText negative run
    have shown := (Whole.read_of_isRun negative run).resolve_left fun unread => legible unread.1
    rw [← spelled] at bare shown
    have found : (Value.text content).toInteger = .ok _ := congrArg (Value.integerOf _) shown.2
    simp only [labelValue, bare, if_pos (all_isDigit_iff.2 run), found, Except.map]

/-- What the texts of a pair tell. -/
def IsLabel (value : Value) (label : String × String) : Prop :=
  ∃ name content, value.items? = some [name, content] ∧ Tells name label.1 ∧ Tells content label.2

theorem iterate_of_items? {items : List Value} (held : value.items? = some items) :
    value.iterate = .ok items := by
  cases value with
  | list | tuple =>
    cases held
    rfl
  | _ => cases held

theorem readLabel_eq {label : String × String} {pair : Value} (isLabel : IsLabel pair label)
    (read : IsRead label.2 value) : readLabel pair = .ok (.text label.1, value) := by
  obtain ⟨name, content, held, named, told⟩ := isLabel
  simp only [readLabel, Value.pair, iterate_of_items? held, named.decoded, told.decoded,
    labelValue_eq read, bind, Except.bind, isKey, if_true]

/-- An entry of a map for a label that a server tells of. -/
def IsEntry (label : String × String) (entry : Value × Value) : Prop :=
  entry.1 = .text label.1 ∧ IsRead label.2 entry.2

theorem exists_entries {labels : List (String × String)} (each : List.Forall₂ IsLabel pairs labels)
    (legible : ∀ label ∈ labels, ∃ value, IsRead label.2 value) :
    ∃ entries, pairs.mapM readLabel = .ok entries ∧ List.Forall₂ IsEntry labels entries := by
  induction each with
  | nil => exact ⟨[], rfl, .nil⟩
  | @cons pair label pairs labels isLabel _ ih =>
    obtain ⟨⟨value, read⟩, others⟩ := List.forall_mem_cons.1 legible
    obtain ⟨entries, mapped, rest⟩ := ih others
    refine ⟨(.text label.1, value) :: entries, ?_, .cons ⟨rfl, read⟩ rest⟩
    rw [List.mapM_cons, readLabel_eq isLabel read, mapped]
    rfl

theorem keys_of_entries {labels : List (String × String)} {entries : List (Value × Value)}
    (each : List.Forall₂ IsEntry labels entries) :
    entries.map (·.1) = labels.map fun label => .text label.1 := by
  induction each with
  | nil => rfl
  | cons entry _ ih => rw [List.map_cons, List.map_cons, ih, entry.1]

/-- Labels of different names are all kept, in their order. -/
theorem distinct_entries {labels : List (String × String)} {entries : List (Value × Value)}
    (each : List.Forall₂ IsEntry labels entries) (apart : (labels.map (·.1)).Nodup) :
    Value.distinct entries = entries := by
  have keys : (entries.map (·.1)).Pairwise fun key other => Value.sameKey key other = false := by
    rw [keys_of_entries each, List.pairwise_map]
    refine (List.pairwise_map.1 apart).imp fun different => ?_
    rw [Value.sameKey_text]
    exact beq_eq_false_iff_ne.2 different
  exact Value.distinct_eq_self (List.pairwise_map.1 keys)

/-- Properties are read in order, the later ones coming first. -/
theorem readProperties_append (even : before.length % 2 = 0) (rest : List Value) :
    readProperties (before ++ rest) =
      readProperties before >>= fun earlier => (readProperties rest).map (· ++ earlier) := by
  induction before using readProperties.induct with
  | case1 name value others ih =>
    have evenRest : others.length % 2 = 0 := by
      simp only [List.length_cons] at even
      omega
    rw [List.cons_append, List.cons_append, readProperties, readProperties, ih evenRest]
    cases readProperty name value with
    | error => rfl
    | ok property =>
      cases readProperties others with
      | error => rfl
      | ok earlier => cases readProperties rest <;> simp [bind, Except.bind, Except.map]
  | case2 items single =>
    cases items with
    | nil =>
      change readProperties rest = (readProperties rest).map (· ++ [])
      cases readProperties rest <;> simp [Except.map]
    | cons name items =>
      cases items with
      | nil => simp at even
      | cons value others => exact absurd rfl (single name value others)

theorem readProperty_labels {name : Value} {items : List Value} (named : Tells name "labels")
    (held : listing.items? = some items) :
    readProperty name listing = .ok (some (.labels, listing)) := by
  have known : Property.ofName? "labels" = some .labels := by decide
  have whole : listing.decoded = .ok listing := by
    cases listing with
    | bytes => cases held
    | _ => rfl
  simp only [readProperty, named.decoded, known, whole, bind, Except.bind]

theorem itemsOf_labels {properties : List (Property × Value)} {items : List Value}
    (told : properties.lookup .labels = some listing) (held : listing.items? = some items) :
    itemsOf properties .labels = .ok items := by
  rw [itemsOf, told, Option.getD_some]
  split
  · exact iterate_of_items? held
  · rename_i empty
    cases listing with
    | list | tuple =>
      cases held
      cases items with
      | nil => rfl
      | cons => exact absurd rfl empty
    | _ => cases held

/-- The rules among the properties of a series. -/
def rulesOf (key : String) (properties : List (Property × Value)) : Except Error (List Rule) := do
  (← itemsOf properties .rules).mapM (Rule.ofValue key)

theorem rulesOf_congr {key : String} {properties others : List (Property × Value)}
    (same : properties.lookup .rules = others.lookup .rules) :
    rulesOf key properties = rulesOf key others := by
  rw [rulesOf, rulesOf, itemsOf, itemsOf, same]

theorem itemsInOrder_of_items? {items : List Value} (held : value.items? = some items) :
    Rule.itemsInOrder value = .ok items := by
  cases value with
  | list | tuple =>
    cases held
    rfl
  | _ => cases held

/-- What it takes to read a reply. -/
theorem ofReply_ok_iff {key : String} {reply : Value} {items : List Value} {info : Info}
    (held : reply.items? = some items) :
    ofReply key reply = .ok info ↔ ∃ listed labels,
      readProperties items = .ok info.properties ∧
      itemsOf info.properties .labels = .ok listed ∧ listed.mapM readLabel = .ok labels ∧
      info.labels = Value.distinct labels ∧ rulesOf key info.properties = .ok info.rules := by
  constructor
  · intro read
    obtain ⟨ordered, same, read⟩ := bind_succeeded read
    cases (itemsInOrder_of_items? held).symm.trans same
    obtain ⟨properties, first, read⟩ := bind_succeeded read
    obtain ⟨listed, second, read⟩ := bind_succeeded read
    obtain ⟨labels, third, read⟩ := bind_succeeded read
    obtain ⟨ruled, fourth, read⟩ := bind_succeeded read
    obtain ⟨rules, fifth, read⟩ := bind_succeeded read
    cases read
    refine ⟨listed, labels, first, second, third, rfl, ?_⟩
    rw [rulesOf, fourth]
    exact fifth
  · rintro ⟨listed, labels, first, second, third, kept, ruled⟩
    obtain ⟨items, fourth, fifth⟩ := bind_succeeded ruled
    simp only [ofReply, itemsInOrder_of_items? held, first, second, third, fourth, fifth, bind,
      Except.bind, ← kept]

/-- A property that is told is put between those that are told after it and before it. -/
theorem readProperties_insert {name : Value} {properties : List (Property × Value)}
    (even : before.length % 2 = 0) (named : Tells name "labels") {items : List Value}
    (held : listing.items? = some items)
    (read : readProperties (before ++ after) = .ok properties)
    (untold : properties.lookup .labels = none) :
    ∃ told, readProperties (before ++ name :: listing :: after) = .ok told ∧
      told.lookup .labels = some listing ∧
      ∀ other, other ≠ .labels → told.lookup other = properties.lookup other := by
  rw [readProperties_append even] at read
  obtain ⟨earlier, first, read⟩ := bind_succeeded read
  obtain ⟨later, second, rfl⟩ := map_succeeded read
  rw [List.lookup_append, Option.or_eq_none_iff] at untold
  refine ⟨later ++ [(.labels, listing)] ++ earlier, ?_, ?_, fun other different => ?_⟩
  · rw [readProperties_append even, first, readProperties, readProperty_labels named held, second]
    rfl
  · rw [List.lookup_append, List.lookup_append, untold.1]
    rfl
  · rw [List.lookup_append, List.lookup_append, List.lookup_append]
    have apart : (other == Property.labels) = false := beq_eq_false_iff_ne.2 different
    simp [List.lookup_cons, apart]

/-- A text that is written as its number is, if it is read as one. -/
def IsKept (content : String) : Prop :=
  ∀ negative digits, content.toList = signText negative ++ digits → IsRun digits →
    Whole.IsCanonical negative digits

theorem render_of_isRead (read : IsRead content value) :
    value.render = content ↔ IsKept content := by
  cases read with
  | text other =>
    refine iff_of_true rfl fun negative digits spelled run => absurd ?_ other
    rwa [spelled, dropWhile_signText negative run]
  | @number negative digits spelled run legible =>
    rw [← String.toList_inj, spelled]
    change (String.ofList (ofInt _)).toList = _ ↔ _
    rw [String.toList_ofList, Whole.ofInt_signed_iff negative run.nonempty]
    constructor
    · intro canonical other others again also
      have split := Whole.splitSign_signText negative run
      rw [← spelled, again, Whole.splitSign_signText other also] at split
      cases split
      exact canonical
    · exact fun kept => kept negative digits spelled run

/-- The filters of labels ask for the labels' values in words. -/
theorem filters_of_entries {labels : List (String × String)} {entries : List (Value × Value)}
    (each : List.Forall₂ IsEntry labels entries) :
    LabelFilter.ofValue (.map entries) =
      .ok (entries.map fun entry => .equal entry.1.render entry.2.render) := by
  change entries.mapM (fun entry => LabelFilter.ofEntry entry.1 entry.2) = _
  induction each with
  | nil => rfl
  | @cons label entry labels entries isEntry _ ih =>
    obtain ⟨key, value⟩ := entry
    obtain ⟨rfl, read⟩ := isEntry
    have first : LabelFilter.ofEntry (.text label.1) value = .ok (.equal label.1 value.render) := by
      cases read <;> rfl
    rw [List.mapM_cons, first, ih]
    rfl

/-- The labels that a reply tells of are read in their order if no value is made of digits that are
no number. Each value is the text that was told, or the number of its digits, which is written as
the text was exactly if that is how numbers are written. The other properties and the rules are as
without the labels, and the equality filters made of the labels ask for their values in words. -/
theorem labels_of_reply {key : String} {reply name listing : Value}
    {before after pairs : List Value} {labels : List (String × String)} {others : Info}
    (held : reply.items? = some (before ++ name :: listing :: after))
    (even : before.length % 2 = 0) (named : Tells name "labels")
    (listed : listing.items? = some pairs) (each : List.Forall₂ IsLabel pairs labels)
    (apart : (labels.map (·.1)).Nodup) (legible : ∀ label ∈ labels, ∃ value, IsRead label.2 value)
    (readable : ofReply key (.list (before ++ after)) = .ok others)
    (untold : others.properties.lookup .labels = none) :
    ∃ info, ofReply key reply = .ok info ∧
      List.Forall₂ (fun label entry => entry.1 = .text label.1 ∧ IsRead label.2 entry.2 ∧
        (entry.2.render = label.2 ↔ IsKept label.2)) labels info.labels ∧
      LabelFilter.ofValue (.map info.labels) = .ok
        (info.labels.map fun entry => .equal entry.1.render entry.2.render) ∧
      info.rules = others.rules ∧
      ∀ property, property ≠ .labels → info.get property = others.get property := by
  obtain ⟨entries, mapped, entered⟩ := exists_entries each legible
  obtain ⟨-, -, read, -, -, -, ruled⟩ := (ofReply_ok_iff rfl).1 readable
  obtain ⟨told, inserted, found, same⟩ := readProperties_insert even named listed read untold
  refine ⟨⟨told, entries, others.rules⟩, (ofReply_ok_iff held).2 ⟨pairs, entries, inserted,
    itemsOf_labels found listed, mapped, (distinct_entries entered apart).symm, ?_⟩, ?_,
    filters_of_entries entered, rfl, fun property different => ?_⟩
  · rw [rulesOf_congr (same .rules (by decide)), ruled]
  · exact entered.imp fun _ _ ⟨key, value⟩ => ⟨key, value, render_of_isRead value⟩
  · rw [get, get, same property different]

/-- A room in bytes and a floor below the ground. -/
def cellar : List Value :=
  [.tuple [.bytes (utf8 "room"), .bytes (utf8 "cellar")], .list [.text "floor", .text "-2"]]

/-- Both labels are written as they were told. -/
theorem labels_of_reply_cellar :
    ∃ info, ofReply "k" (.list [.text "totalSamples", .int 3, .bytes (utf8 "labels"),
        .list cellar, .text "rules", .list []]) = .ok info ∧
      List.Forall₂ (fun (label : String × String) (entry : Value × Value) =>
        entry.1 = .text label.1 ∧ IsRead label.2 entry.2 ∧
          (entry.2.render = label.2 ↔ IsKept label.2))
        [("room", "cellar"), ("floor", "-2")] info.labels ∧
      IsKept "-2" ∧ info.get .totalSamples = .int 3 := by
  have held : (Value.list [.text "totalSamples", .int 3, .bytes (utf8 "labels"), .list cellar,
      .text "rules", .list []]).items? = some ([.text "totalSamples", .int 3] ++
        .bytes (utf8 "labels") :: .list cellar :: [.text "rules", .list []]) := rfl
  have told : List.Forall₂ IsLabel cellar [("room", "cellar"), ("floor", "-2")] :=
    .cons ⟨_, _, rfl, .bytes "room", .bytes "cellar"⟩
      (.cons ⟨_, _, rfl, .text "floor", .text "-2"⟩ .nil)
  have room : IsRead "cellar" (.text "cellar") :=
    .text fun run => Bool.false_ne_true (run.digits 'c' List.mem_cons_self)
  have two : IsRun ['2'] := ⟨List.cons_ne_nil _ _, List.forall_mem_singleton.2 rfl⟩
  have few : ¬Whole.IsUnread ['2'] := by
    rintro (⟨c, member, bare⟩ | long)
    · cases List.mem_singleton.1 member
      cases bare
    · exact absurd long (by decide)
  have value : Whole.signed true (digitsValue (decimals ['2'])) = -2 := by decide
  have below : IsRead "-2" (.int (-2)) :=
    value ▸ .number (rfl : "-2".toList = signText true ++ ['2']) two few
  have legible : ∀ label ∈ [("room", "cellar"), ("floor", "-2")], ∃ value, IsRead label.2 value :=
    List.forall_mem_cons.2 ⟨⟨_, room⟩, List.forall_mem_singleton.2 ⟨_, below⟩⟩
  have readable : ofReply "k" (.list ([.text "totalSamples", .int 3] ++
      [.text "rules", .list []])) = .ok ⟨[(.rules, .list []), (.totalSamples, .int 3)], [], []⟩ :=
    rfl
  obtain ⟨info, read, each, -, -, others⟩ :=
    labels_of_reply held rfl (.bytes "labels") rfl told (by decide) legible readable rfl
  exact ⟨info, read, each, (render_of_isRead below).1 rfl, others .totalSamples (by decide)⟩

/-- Zeros in front are lost, and with them the series that the label stands for. -/
theorem leading_zeros_lost :
    ofReply "k" (.list [.text "labels", .list [.list [.text "room", .text "007"]]]) =
        .ok ⟨[(.labels, .list [.list [.text "room", .text "007"]])],
          [(.text "room", .int 7)], []⟩ ∧
      (Value.int 7).render ≠ "007" ∧
      LabelFilter.ofValue (.map [(.text "room", .int 7)]) = .ok [.equal "room" "7"] :=
  ⟨rfl, by decide, rfl⟩

end CalendarSeries.Info
