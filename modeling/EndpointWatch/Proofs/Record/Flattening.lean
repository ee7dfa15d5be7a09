import EndpointWatch.Proofs.Dict
import EndpointWatch.Proofs.Instant
import EndpointWatch.Proofs.Text.Digits
import EndpointWatch.Record.Metric

/-!
# What the metrics stream tells of a metric

The tags of a metric stand beside its own fields, never in the place of one and never one in the place of another
(`get?_streamFields_eq_some_iff`): no own field begins with `tag_`, and what follows it is the key. So the fields tell
all of a metric but what lies below a second of its time (`flattened_without_loss`).
-/

namespace EndpointWatch

open Text

/-! ### Whole seconds -/

namespace Instant

/-- The instant with what lies below a second dropped. A leap second is part of the second that it follows. -/
def floorSecond (i : Instant) : Instant := ofSeconds i.second 0

theorem floorSecond_eq_iff {i j : Instant} : i.floorSecond = j.floorSecond ↔ i.second = j.second :=
  ⟨congrArg second, congrArg (ofSeconds · 0)⟩

/-- Seconds are rounded down before the epoch too. -/
theorem toMillis_floorSecond {i : Instant} (h : i.IsRegular) : i.floorSecond.toMillis = i.toMillis / 1000 * 1000 := by
  have hn : i.nano < 1_000_000_000 := h
  have hfloor : i.floorSecond.toMillis = i.second * 1000 + (0 / 1_000_000 : Nat) := rfl
  rw [hfloor, toMillis]
  omega

end Instant

/-! ### Tags beside fields -/

namespace MetricKind

theorem name_injective : Function.Injective name := by
  intro a b h
  cases a <;> cases b <;> simp [name] at h ⊢

end MetricKind

namespace Metric

variable {m m' : Metric}

/-- The field of a tag. -/
def tagField (key : String) : String := "tag_" ++ key

theorem tagField_injective : Function.Injective tagField := fun _ _ h => (String.append_right_inj _).mp h

/-- The fields that every metric has. -/
def ownFields (m : Metric) : Dict String String :=
  .ofList [("name", m.name), ("type", m.kind.name), ("value", Decimal.plain m.value),
    ("timestamp", .ofList (ofInt m.time.second)), ("description", m.description)]

theorem get?_ownFields (m : Metric) (k : String) :
    m.ownFields.get? k =
      if k = "description" then some m.description
      else if k = "timestamp" then some (.ofList (ofInt m.time.second))
      else if k = "value" then some (Decimal.plain m.value)
      else if k = "type" then some m.kind.name
      else if k = "name" then some m.name
      else none := by
  simp [ownFields, Dict.ofList, Dict.get?_insert]

theorem size_ownFields (m : Metric) : m.ownFields.size = 5 :=
  have hkeys : ["name", "type", "value", "timestamp", "description"].Nodup := by decide
  Dict.size_foldl_insert hkeys fun _ _ => rfl

/-- No tag is in the place of an own field. -/
theorem get?_ownFields_tagField (m : Metric) (key : String) : m.ownFields.get? (tagField key) = none := by
  have hne {k : String} (hk : k.toList.take 4 ≠ ['t', 'a', 'g', '_']) : tagField key ≠ k := fun h => by
    rw [← h, tagField, String.toList_append] at hk
    exact hk rfl
  rw [get?_ownFields, if_neg (hne (by decide)), if_neg (hne (by decide)), if_neg (hne (by decide)),
    if_neg (hne (by decide)), if_neg (hne (by decide))]

theorem streamFields_eq (m : Metric) :
    m.streamFields = (m.tags.rekeyed tagField).foldl (fun d e => d.insert e.1 e.2) m.ownFields := by
  rw [Dict.rekeyed, List.foldl_map]
  rfl

theorem get?_streamFields_tagField (m : Metric) (key : String) :
    m.streamFields.get? (tagField key) = m.tags.get? key := by
  rw [streamFields_eq]
  exact Dict.get?_foldl_insert_rekeyed tagField_injective (get?_ownFields_tagField m) key

/-- The fields are the own ones and those of the tags. -/
theorem get?_streamFields_eq_some_iff {k v : String} :
    m.streamFields.get? k = some v ↔
      m.ownFields.get? k = some v ∨ ∃ key, tagField key = k ∧ m.tags.get? key = some v := by
  by_cases htag : ∃ key, tagField key = k
  · obtain ⟨key, rfl⟩ := htag
    rw [get?_streamFields_tagField, get?_ownFields_tagField]
    constructor
    · exact fun h => .inr ⟨key, rfl, h⟩
    · rintro (h | ⟨key', hkey, h⟩)
      · cases h
      · exact tagField_injective hkey ▸ h
  · have hown : m.streamFields.get? k = m.ownFields.get? k := by
      rw [streamFields_eq]
      exact Dict.get?_foldl_insert_rekeyed_of_ne fun key hkey => htag ⟨key, hkey⟩
    rw [hown]
    exact ⟨.inl, fun h => h.resolve_right fun ⟨key, hkey, _⟩ => htag ⟨key, hkey⟩⟩

theorem size_streamFields (m : Metric) : m.streamFields.size = 5 + m.tags.size := by
  rw [streamFields_eq, Dict.size_foldl_insert_rekeyed tagField_injective (get?_ownFields_tagField m), size_ownFields]

/-! ### What the fields tell -/

/-- Whether two metrics are the same but for what the stream does not tell: what lies below a second of the time, and
digits of the value that are not printed. -/
structure AlikeToTheSecond (m m' : Metric) : Prop where
  name : m.name = m'.name
  kind : m.kind = m'.kind
  value : Decimal.plain m.value = Decimal.plain m'.value
  description : m.description = m'.description
  tags : m.tags = m'.tags
  time : m.time.floorSecond = m'.time.floorSecond

theorem AlikeToTheSecond.streamFields_eq (h : AlikeToTheSecond m m') : m.streamFields = m'.streamFields := by
  have htime := Instant.floorSecond_eq_iff.mp h.time
  rw [streamFields, streamFields, h.name, h.kind, h.value, h.description, h.tags, htime]

theorem alikeToTheSecond_of_streamFields (h : m.streamFields = m'.streamFields) : AlikeToTheSecond m m' := by
  have hown {k v w : String} (hv : m.ownFields.get? k = some v) (hw : m'.ownFields.get? k = some w) : v = w := by
    have hv := get?_streamFields_eq_some_iff.mpr (.inl hv)
    have hw := get?_streamFields_eq_some_iff.mpr (.inl hw)
    rw [h, hw] at hv
    exact (Option.some.inj hv).symm
  simp only [get?_ownFields] at hown
  have hseconds := String.ofList_injective (hown (k := "timestamp") rfl rfl)
  refine ⟨hown (k := "name") rfl rfl, ?_, hown (k := "value") rfl rfl, hown (k := "description") rfl rfl, ?_, ?_⟩
  · exact MetricKind.name_injective (hown (k := "type") rfl rfl)
  · refine Dict.ext_get? fun key => ?_
    rw [← get?_streamFields_tagField, ← get?_streamFields_tagField, h]
  · exact Instant.floorSecond_eq_iff.mpr (ofInt_injective hseconds)

/-- Two metrics have the same fields exactly if they are the same to the second. Whatever the keys of the tags are, the
fields are the five own ones and one for each tag, and seconds are rounded down, also before 1970. -/
theorem flattened_without_loss :
    (∀ m m' : Metric, m.streamFields = m'.streamFields ↔ AlikeToTheSecond m m') ∧
    (∀ m : Metric,
      (∀ k v, m.streamFields.get? k = some v ↔
        m.ownFields.get? k = some v ∨ ∃ key, tagField key = k ∧ m.tags.get? key = some v) ∧
      m.streamFields.size = 5 + m.tags.size) ∧
    ∀ i : Instant, i.IsRegular → i.floorSecond.toMillis = i.toMillis / 1000 * 1000 := by
  refine ⟨fun m m' => ⟨alikeToTheSecond_of_streamFields, fun h => h.streamFields_eq⟩, fun m => ⟨?_, ?_⟩, ?_⟩
  · exact fun k v => get?_streamFields_eq_some_iff
  · exact m.size_streamFields
  · exact fun i => Instant.toMillis_floorSecond

end Metric

end EndpointWatch
