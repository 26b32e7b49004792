import SesSender.Spec.Basic

/-! `parse_scheduled_at`: the KST time a client asked for, as the UTC text the
scheduler compares with `datetime('now')`. -/

namespace Ses

open Calendar

/-- The first year of `chrono::NaiveDate`. -/
def chronoMinYear : Int := -262143

/-- `kst.from_local_datetime(&dt).single()`, seen in UTC: nine hours earlier,
unless that lies before the first date there is. -/
def kstToUtc (dt : DateTime) : Option DateTime :=
  let utc := dt.minusHours 9 (by decide)
  if utc.year < chronoMinYear then none else some utc

/-- The UTC date-time a `scheduled_at` string stands for, when it parses. -/
def scheduledUtc (E : Env) (s : String) : Option DateTime := (E.parseFromStr s).bind kstToUtc

def parseScheduledAt (E : Env) (now : Instant) (scheduled : Option String) : String :=
  match scheduled with
  | some s =>
    if s = "" then now.stamp
    else match scheduledUtc E s with
      | some utc => utc.stamp
      | none => now.stamp   -- "Invalid scheduled_at '{}', using now"
  | none => now.stamp

end Ses
