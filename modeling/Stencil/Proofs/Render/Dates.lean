import Stencil.Engine
import Stencil.Proofs.Calendar.Pattern
import Stencil.Proofs.Render.Guard

/-!
Dates in a render.

A call of a built-in helper that comes to a value leaves everything as it was, with one thing that may be noted: that
the render is given up. This is how a pattern can come to nothing. The value of the call is there all the same, and it
is the pattern with its placeholders replaced, but the render that it belongs to counts for nothing.

So what a render makes of a date is said by two things that `Stencil.Proofs.Calendar.Pattern` knows of any way to expand
the pattern: the text, and whether the exchange format was asked for on the way.
-/

namespace Stencil

open Helper Calendar

namespace Expand

variable {env : Environment} {args : Args} {state : RenderState} {t : Instant} {tokens : List PatternToken}
  {out : List Char}

/-! ## 1. Built-in helpers -/

/-- What a helper may read in a state. -/
def settingIn (env : Environment) (state : RenderState) : Setting :=
  ⟨state.scope, state.files, env.serverZone, env.now⟩

/-- A call of a built-in helper that comes to a value changes nothing but whether the render is given up. -/
theorem exec_helper_of_call? {name : String} (hregular : env.registry.regular? name = none) (hasArguments : Bool)
    {v : Value} (hcall : Helper.call? args (settingIn env state) = some (.ok v)) :
    Render.exec (helper env name hasArguments args).run state =
      (.ok (.final v),
        { state with abandoned := state.abandoned || Helper.overruns args (settingIn env state) }) := by
  have hsetting : Render.exec (Render.setting env) state = (settingIn env state, state) := rfl
  unfold helper
  rw [hregular]
  dsimp only
  rw [Render.exec_expand_bind, Render.exec_lift, hsetting]
  dsimp only
  rw [Render.exec_expand_bind, Render.exec_lift, hcall]
  rfl

/-! ## 2. Dates by a pattern -/

/-- The zone by whose clocks a date is shown. -/
def shownZone (env : Environment) (args : Args) (state : RenderState) : Zone :=
  Date.zoneOf (settingIn env state) (Date.anyZone args 2)

/-- **Dates by a pattern.** In a render a date is shown as what its pattern is expanded to. The render is given up just
when the exchange format is asked for on the way and the local time lies outside the calendar, and apart from this
nothing changes. -/
theorem exec_date_format (hregular : env.registry.regular? "date.format" = none) (hname : args.name = "date.format")
    (hasArguments : Bool) (hread : Date.instant? (shownZone env args state) args.primary = some t)
    (hexpands : Expands t ((shownZone env args state).offsetAt t) (Date.pattern args).toList tokens out) :
    Render.exec (helper env "date.format" hasArguments args).run state =
      (.ok (.final (.string (.ofList out))),
        { state with abandoned := state.abandoned ||
          (!(t.shift ((shownZone env args state).offsetAt t)).inRange && tokens.contains .exchange) }) := by
  have hcut : Text.cutAt? ['.'] args.name.toList = some ("date".toList, "format".toList) := by
    rw [hname]
    decide +kernel
  have hcall : Helper.call? args (settingIn env state) = some (.ok (.string (.ofList out))) := by
    rw [Helper.call?, hcut]
    show some (Except.ok (Date.formatted args (settingIn env state))) = _
    rw [Date.formatted, ← shownZone, hread, Option.map_some, Date.format, hexpands.eq_formatInstant,
      String.ofList_toList]
    rfl
  have hoverruns : Helper.overruns args (settingIn env state) =
      (!(t.shift ((shownZone env args state).offsetAt t)).inRange && tokens.contains .exchange) := by
    rw [Helper.overruns, hcut]
    show Date.overruns "format" args (settingIn env state) = _
    rw [Bool.eq_iff_iff, Bool.and_eq_true, Bool.not_eq_true', List.contains_iff_mem, ← hexpands.overruns_iff,
      Date.overruns, ← shownZone, hread, Option.any_some]
  rw [exec_helper_of_call? hregular hasArguments hcall, hoverruns]

end Expand

/-! ## 3. The end of the calendar -/

namespace Engine

/-- An engine whose clocks are nine hours ahead. -/
def nineHoursAhead : Engine :=
  ⟨[], ⟨{}, .null, ⟨[], [], []⟩, ⟨"Asia/Tokyo", 32400, []⟩⟩, [], .memory (.empty 0), []⟩

/-- At the last moment of universal time it is the next day by clocks that are ahead. This day is written by itself and
with its time, but not in the exchange format, although this would be a text like any other: the render is given up. -/
theorem exchange_format_lost :
    ((nineHoursAhead.evaluate ⟨0, 0⟩ "\x7b\x7bdate.format 8210266876799999 '%DATETIME%'\x7d\x7d" .null).1.bind
        Value.string? = some "+262143-01-01 08:59:59") ∧
      (nineHoursAhead.evaluate ⟨0, 0⟩ "\x7b\x7bdate.format 8210266876799999 '%ISO%'\x7d\x7d" .null).1 = none ∧
      String.ofList (PatternToken.exchange.text ⟨8210266876799, 999000000⟩ 32400) =
        "+262143-01-01T08:59:59.999+09:00" := by
  refine ⟨?_, Option.isNone_iff_eq_none.mp ?_, ?_⟩
  · decide +kernel
  · decide +kernel
  · decide +kernel

end Engine

end Stencil
