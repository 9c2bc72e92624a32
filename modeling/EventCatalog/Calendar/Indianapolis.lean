/-
# EventCatalog.Calendar.Indianapolis — the convention's clock

The convention takes place in Indianapolis, and every date is searched and stored on the
clock of that city.  The clock kept local mean time until railway time in 1883, had its
own rules of daylight saving up to 1970 and none from then on to 2006.  Since 2007 it
goes forward on the second Sunday of March and back on the first Sunday of November; the
table follows that rule to the end of 2099, and standard time is in force ever after.
-/
import EventCatalog.Calendar.Zone

set_option autoImplicit false

namespace EventCatalog.Calendar.Indianapolis

/-- A number of hours in seconds. -/
def hours (n : Int) : Int := n * 3600

/-- A change at a full hour, in universal time, of a date. -/
def changeOn (year : Int) (month day hour : Nat) (offset : Int) : Change :=
  ⟨secondsOf ⟨year, month, day⟩ hour 0 0, hours offset⟩

/-- The changes up to 2006. -/
def early : List Change :=
  [changeOn 1883 11 18 18 (-6),
   changeOn 1918 3 31 8 (-5), changeOn 1918 10 27 7 (-6),
   changeOn 1919 3 30 8 (-5), changeOn 1919 10 26 7 (-6),
   changeOn 1941 6 22 8 (-5), changeOn 1941 9 28 7 (-6),
   changeOn 1942 2 9 8 (-5), changeOn 1945 9 30 7 (-6),
   changeOn 1946 4 28 8 (-5), changeOn 1946 9 29 7 (-6),
   changeOn 1947 4 27 8 (-5), changeOn 1947 9 28 7 (-6),
   changeOn 1948 4 25 8 (-5), changeOn 1948 9 26 7 (-6),
   changeOn 1949 4 24 8 (-5), changeOn 1949 9 25 7 (-6),
   changeOn 1950 4 30 8 (-5), changeOn 1950 9 24 7 (-6),
   changeOn 1951 4 29 8 (-5), changeOn 1951 9 30 7 (-6),
   changeOn 1952 4 27 8 (-5), changeOn 1952 9 28 7 (-6),
   changeOn 1953 4 26 8 (-5), changeOn 1953 9 27 7 (-6),
   changeOn 1954 4 25 8 (-5), changeOn 1954 9 26 7 (-6),
   changeOn 1955 4 24 8 (-5), changeOn 1957 9 29 7 (-6),
   changeOn 1958 4 27 8 (-5),
   changeOn 1969 4 27 7 (-4), changeOn 1969 10 26 6 (-5),
   changeOn 1970 4 26 7 (-4), changeOn 1970 10 25 6 (-5),
   changeOn 2006 4 2 7 (-4), changeOn 2006 10 29 6 (-5)]

/-- The two changes of a year since 2007. -/
def yearly (year : Int) : List Change :=
  [⟨sundayOf year 3 1 * secondsPerDay + hours 7, hours (-4)⟩,
   ⟨sundayOf year 11 0 * secondsPerDay + hours 6, hours (-5)⟩]

/-- Local mean time, five hours, forty-four minutes and thirty-eight seconds behind. -/
def meanTime : Int := -(5 * 3600 + 44 * 60 + 38)

/-- The clock of Indianapolis. -/
def zone : Zone :=
  { initial := meanTime
    changes := early ++ (List.range 93).flatMap fun (n : Nat) => yearly (2007 + n) }

end EventCatalog.Calendar.Indianapolis
