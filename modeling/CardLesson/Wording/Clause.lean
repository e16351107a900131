/-
# Clauses that state an effect

Each rule pairs the phrase of a clause with the effects it stands for: scores, gains and losses of
pools, buffs, what happens to cards, and changes of the course of a lesson.

Key definitions: `parameter`, `repeated`, `scoreRules`, `poolRules`, `buffRules`, `cardRules`,
`courseRules`, `effectRules`.
Key theorems: `mem_repeated`.
-/
import CardLesson.Effect.Basic
import CardLesson.Wording.Pattern

namespace CardLesson.Wording

open Pattern

/-- The word for the score, in both its spellings. -/
def parameter : Pattern := word "パラメータ" ++ maybe (word "ー")

/-- A rule whose clause stands for one effect. -/
def single (pattern : Pattern) (meaning : Found → Except Fault Operation) : Rule (List Effect) :=
  ⟨pattern, fun f => do return [.of (← meaning f)]⟩

/-- A rule whose clause always stands for the same effect. -/
def constant (pattern : Pattern) (op : Operation) : Rule (List Effect) :=
  single pattern fun _ => .ok op

/-- A rule for an effect of so much. -/
def amountRule (pattern : Pattern) (kind : EffectKind) : Rule (List Effect) :=
  single pattern fun f => do return { kind := .known kind, value := .whole (← f.count .amount) }

/-- A rule for a buff of so many turns. -/
def turnsRule (pattern : Pattern) (kind : EffectKind) : Rule (List Effect) :=
  single pattern fun f => do return { kind := .known kind, duration := .whole (← f.count .amount) }

/-- The turns that a clause adds in parentheses. -/
def turnsNote : Pattern := maybe (word "(" ++ digits .turns ++ word "ターン)")

/-- The number of turns as a duration, if there is one. -/
def durationOf : Option Nat → Datum
  | some n => .whole n
  | none => .null

/-- The greatest number of effects that can be counted. -/
def countLimit : Nat := 9223372036854775807

/-- The greatest number of items that a list can refer to: each reference takes eight bytes, and the
bytes must be counted too. Whether there is memory for so many belongs to the machine. -/
def listLimit : Nat := countLimit / 8

/-- The same effect so many times. -/
def repeated (times : Nat) (e : Effect) : Except Fault (List Effect) :=
  if countLimit < times then .error .tooLarge
  else if listLimit < times then .error .outOfMemory
  else .ok (List.replicate times e)

theorem mem_repeated {n : Nat} {e e' : Effect} {es : List Effect} (h : repeated n e = .ok es)
    (he : e' ∈ es) : e' = e := by
  unfold repeated at h
  split at h
  · simp at h
  · split at h
    · simp at h
    · simp only [Except.ok.injEq] at h
      subst h
      exact List.eq_of_mem_replicate he

/-- The pools in proportion to which a score can rise. -/
def scalePools : List (String × EffectKind) :=
  [("元気", .scoreScaleGenki), ("好印象", .scoreScaleImpression), ("やる気", .scoreScaleMotivation)]

/-- A fixed score, with the weight of concentration and the number of times. -/
def fixedScoreRule : Rule (List Effect) where
  pattern := parameter ++ word "+" ++ digits .amount ++
    maybe (word "(集中効果を" ++ figures .factor ++ word "倍適用)") ++
    maybe (word "(" ++ digits .times ++ word "回)")
  meaning := fun f => do
    let multiplier ← f.decimal? .factor
    let times ← f.count? .times
    let value ← f.count .amount
    repeated (times.getD 1)
      (.score (.whole value) (multiplier.elim .null fun x => .number (.real x)))

/-- A score in proportion to a pool, in hundredths. -/
def scaledScoreRule (pool : String) (kind : EffectKind) : Rule (List Effect) :=
  single (word pool ++ word "の" ++ digits .amount ++ word "%分" ++ parameter ++ word "上昇")
    fun f => do
      let ratio ← Quantity.ratio (.whole (← f.count .amount)) (.whole 100)
      return { kind := .known kind, ratio := .number (.real ratio) }

def scoreRules : List (Rule (List Effect)) :=
  fixedScoreRule :: scalePools.map fun (pool, kind) => scaledScoreRule pool kind

/-- A factor on good impression. -/
def multiplyImpressionRule : Rule (List Effect) :=
  single (word "好印象" ++ decimal .factor ++ word "倍") fun f => do
    let factor ← f.decimal? .factor
    return { kind := .known .multiplyImpression
             value := factor.elim .null fun x => .number (.real x) }

def poolRules : List (Rule (List Effect)) :=
  [amountRule (word "元気+" ++ digits .amount) .genki,
    amountRule (word "好印象+" ++ digits .amount) .impression,
    amountRule (word "やる気+" ++ digits .amount) .motivation,
    amountRule (word "集中+" ++ digits .amount) .concentration,
    multiplyImpressionRule,
    constant (word "元気を半分にする") { kind := .known .halfGenki },
    amountRule (word "元気を" ++ digits .amount ++ word "にする") .setGenki,
    amountRule (word "体力消費" ++ digits .amount) .consumeHp,
    amountRule (word "やる気消費" ++ digits .amount) .consumeMotivation,
    amountRule (word "好印象消費" ++ digits .amount) .consumeImpression]

/-- A lower HP cost, for one turn. -/
def hpCostDownRule : Rule (List Effect) :=
  single (word "消費体力削減" ++ digits .amount) fun f => do
    return { kind := .known .reduceHpCost, value := .whole (← f.count .amount)
             duration := .whole 1 }

/-- An amount that may be followed by the turns it lasts, which `lasting` makes into a duration. -/
def lastingRule (pattern : Pattern) (kind : EffectKind) (lasting : Option Nat → Datum) :
    Rule (List Effect) :=
  single (pattern ++ turnsNote) fun f => do
    let value ← f.count .amount
    let turns ← f.count? .turns
    return { kind := .known kind, value := .whole value, duration := lasting turns }

/-- Turns as a duration that lasts for the rest of the lesson when there are none. -/
def durationOrRest : Option Nat → Datum
  | some (n + 1) => .whole (n + 1)
  | _ => .whole (-1)

/-- Immunity to so many debuffs, to one unless said otherwise. -/
def immunityRule : Rule (List Effect) :=
  single (word "低下状態無効" ++ maybe (word "(" ++ digits .times ++ word "回)")) fun f => do
    return { kind := .known .noDebuff, count := .whole ((← f.count? .times).getD 1)
             duration := .whole (-1) }

/-- The pools whose gains cards can raise. -/
def basePools : List (String × String) :=
  [("元気", "genki"), ("好印象", "impression"), ("やる気", "motivation")]

/-- A higher base value of cards. -/
def baseValueRule (pool param : String) : Rule (List Effect) :=
  single (oneOf ["すべての", "所有"] ++ word "スキルカードの" ++ word pool ++
      maybe (oneOf ["値", "值"]) ++ word "増加+" ++ digits .amount) fun f => do
    return { kind := .known .cardBaseValue, value := .whole (← f.count .amount)
             duration := .whole (-1), param := .text param }

def buffRules : List (Rule (List Effect)) :=
  [turnsRule (word "好調" ++ digits .amount ++ word "ターン") .perfectCondition,
    turnsRule (word "絶好調" ++ digits .amount ++ word "ターン") .doubleStrike,
    turnsRule (word "消費体力減少" ++ digits .amount ++ word "ターン") .costReduction,
    turnsRule (word "消費体力増加" ++ digits .amount ++ word "ターン") .doubleCost,
    hpCostDownRule,
    lastingRule (word "消費体力追加" ++ maybe (word "+") ++ digits .amount) .costIncrease durationOf,
    turnsRule (word "元気増加無効" ++ digits .amount ++ word "ターン") .noGenkiGain,
    immunityRule,
    lastingRule (parameter ++ word "上昇量増加" ++ maybe (word "+") ++ digits .amount ++ word "%")
      .scoreBonus durationOrRest,
    lastingRule (word "好印象" ++ oneOf ["増加量増加", "強化"] ++ maybe (word "+") ++
      digits .amount ++ word "%") .impressionGain durationOf] ++
  basePools.map fun (pool, param) => baseValueRule pool param

/-- Cards of the hand that are used without their cost. -/
def freeUseRule : Rule (List Effect) :=
  single (word "ランダムな手札にあるスキルカード(" ++ letters .content ++ word ")" ++
      digits .amount ++ word "枚をコストを消費せず使用") fun f => do
    return { kind := .known .triggerRandomHandCard, count := .whole (← f.count .amount)
             targetRarity := .text (String.ofList (f.text .content)), ignoreCost := true }

/-- Drawn cards, one unless said otherwise. -/
def drawRule : Rule (List Effect) :=
  single (word "スキルカードを" ++ maybe (digits .amount ++ word "枚") ++ word "引く") fun f => do
    return { kind := .known .drawCard, value := .whole ((← f.count? .amount).getD 1) }

/-- A trouble card somewhere in the deck. -/
def troubleRule : Rule (List Effect) :=
  single (named .content (upTo "を山札のランダムな位置に生成") ++
      word "を山札のランダムな位置に生成") fun f =>
    .ok { kind := .known .generateTrouble
          troubleId := .text ("trouble_" ++ String.ofList (f.text .content)) }

def cardRules : List (Rule (List Effect)) :=
  [amountRule (word "スキルカード使用数追加+" ++ digits .amount) .addCardPlayCount,
    drawRule,
    constant (word "手札をすべて入れ替える") { kind := .known .swapHand },
    constant (word "手札をすべてレッスン中強化") { kind := .known .upgradeHand },
    freeUseRule,
    troubleRule]

def courseRules : List (Rule (List Effect)) :=
  [amountRule (word "ターン追加+" ++ digits .amount) .addTurn,
    constant (word "レッスン" ++ maybe (word "を") ++ word "終了" ++ maybe (word "する"))
      { kind := .known .endLesson }]

/-- The clauses that state an effect. -/
def effectRules : List (Rule (List Effect)) :=
  scoreRules ++ poolRules ++ buffRules ++ cardRules ++ courseRules

end CardLesson.Wording
