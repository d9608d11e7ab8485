import BlogMigration.Posts.ContentFile
import BlogMigration.Proofs.Export.Rows
import BlogMigration.Proofs.Time.RoundTrip

/-!
# Dates of posts

The date of a post is the text of a timestamp, on the clocks of the location. The text is read as
the timestamp again, so that it makes no difference in which of its forms an instant is given.
-/

namespace BlogMigration
namespace Posts
namespace Post

open Export (Data PostRow)
open Time (Fields Location Reader Timestamp Zone)

variable {location : Location} {machine : Zone} {stamp : Timestamp}

/-- A row whose time is an instant has the date of the instant in its front matter. -/
theorem head?_frontMatter (steady : location.IsSteady) {twin : Timestamp} {raw : Json}
    (read : (Reader.make location none machine).read? raw = some stamp) {row : PostRow}
    (dated : (Reader.make location none machine).read? (timeOf row) = some twin)
    (same : twin.utc = stamp.utc) (data : Data) (normalize : Images.Normalizer) :
    ((ofRow data (.make location none machine) row).frontMatter normalize).head? =
      some ("date", .text stamp.text) := by
  have offset : twin.offset = stamp.offset :=
    (Reader.offset_of_read? steady dated).trans (Reader.offset_of_read? steady read).symm
  obtain rfl : twin = stamp := by
    cases twin
    cases stamp
    simp_all
  simp [frontMatter, ofRow, dated, textField]

/-- A date that was read is read again from its text, with its fraction of a second and in a leap
second too, whatever clocks the machine has. A text of the instant on the clocks of another offset
gives the same date, and so does any value that is read as the instant. -/
theorem date_reads_back (steady : location.IsSteady) (whole : location.offset % 60 = 0)
    (raw : Json) (read : (Reader.make location none machine).read? raw = some stamp) :
    (0 ≤ stamp.localYear ∧ stamp.localYear ≤ 9999 →
      (Reader.make location none machine).read? (.string stamp.text) = some stamp) ∧
    (∀ offset, Fields.isOffset offset = true → offset % 60 = 0 →
      0 ≤ (stamp.withOffset offset).localYear ∧ (stamp.withOffset offset).localYear ≤ 9999 →
      (Reader.make location none machine).read? (.string (stamp.withOffset offset).text) =
        some stamp) ∧
    ∀ data row normalize twin,
      (Reader.make location none machine).read? (timeOf row) = some twin →
      twin.utc = stamp.utc →
      ((ofRow data (.make location none machine) row).frontMatter normalize).head? =
        some ("date", .text stamp.text) := by
  have printable := Reader.isPrintable_of_read? steady whole read
  have back (offset : Int) :
      (location.zone machine).convert (stamp.withOffset offset) = stamp := by
    rw [steady.zone_eq, Zone.convert, Timestamp.withOffset, Timestamp.withOffset, Zone.steady,
      ← Reader.offset_of_read? steady read]
  refine ⟨fun years => ?_, fun offset inside minutes years => ?_,
    fun data row normalize twin dated same =>
      head?_frontMatter steady read dated same data normalize⟩
  · rw [Reader.read?_text location machine printable years]
    exact congrArg some (back stamp.offset)
  · have shifted : (stamp.withOffset offset).IsPrintable :=
      ⟨printable.shown, printable.dated, inside, minutes⟩
    rw [Reader.read?_text location machine shifted years, back]

/-- A leap second at the end of a year, on clocks that show the next year already, and a post that
gives it with another offset. -/
theorem date_reads_back_leapSecond :
    let reader := Reader.make (.fixed 19800) none
    let raw := Json.string "2016-12-31 23:59:60.25 UTC"
    let stamp : Timestamp := ⟨⟨1483228799, 1250000000⟩, 19800⟩
    let row := { PostRow.identified (.number 1) with
      publishedAt := .string " 2016-12-31 21:59:60.250-02 " }
    ((Location.fixed 19800).IsSteady ∧ (Location.fixed 19800).offset % 60 = 0) ∧
    reader.read? raw = some stamp ∧
    stamp.text = "2017-01-01T05:29:60.250+05:30" ∧
    (0 ≤ stamp.localYear ∧ stamp.localYear ≤ 9999) ∧
    reader.read? (.string "2017-01-01T05:29:60.250+05:30") = some stamp ∧
    (stamp.withOffset (-7200)).text = "2016-12-31T21:59:60.250-02:00" ∧
    reader.read? (.string "2016-12-31T21:59:60.250-02:00") = some stamp ∧
    ((ofRow ⟨[], [], [], [], [], []⟩ reader row).frontMatter Images.identity).head? =
      some ("date", .text "2017-01-01T05:29:60.250+05:30") := by
  intro reader raw stamp row
  have steady : (Location.fixed 19800).IsSteady := rfl
  have whole : (Location.fixed 19800).offset % 60 = 0 := rfl
  have read : reader.read? raw = some stamp := by decide +kernel
  have text : stamp.text = "2017-01-01T05:29:60.250+05:30" := by decide +kernel
  have westText : (stamp.withOffset (-7200)).text = "2016-12-31T21:59:60.250-02:00" := by
    decide +kernel
  have years : 0 ≤ stamp.localYear ∧ stamp.localYear ≤ 9999 := by decide +kernel
  have westYears : 0 ≤ (stamp.withOffset (-7200)).localYear ∧
      (stamp.withOffset (-7200)).localYear ≤ 9999 := by decide +kernel
  have twin : reader.read? (timeOf row) = some stamp := by decide +kernel
  obtain ⟨own, others, dates⟩ := date_reads_back steady whole raw read
  have again := own years
  have west := others (-7200) rfl rfl westYears
  have date := dates ⟨[], [], [], [], [], []⟩ row Images.identity stamp twin rfl
  rw [text] at again date
  rw [westText] at west
  exact ⟨⟨steady, whole⟩, read, text, years, again, westText, west, date⟩

end Post
end Posts
end BlogMigration
