import CardLesson.Datum.Literal
import CardLesson.Text.Blank
import CardLesson.Text.Digit
import CardLesson.Text.LowerCase
import CardLesson.Text.Compatible
import CardLesson.Json.Reader
import CardLesson.Json.Writer
import CardLesson.Fault
import CardLesson.Number.Arithmetic
import CardLesson.Balance
import CardLesson.Effect.Basic
import CardLesson.Effect.Record
import CardLesson.Card.Collection
import CardLesson.Roster
import CardLesson.Chance.Basic
import CardLesson.Lesson.Pile
import CardLesson.Lesson.Cost
import CardLesson.Lesson.Resolve
import CardLesson.Lesson.Turn
import CardLesson.Lesson.View
import CardLesson.Policy
import CardLesson.Sheet.Compilation
import CardLesson.Service.Answer
import CardLesson.Main
import CardLesson.Proofs.Conservation
import CardLesson.Proofs.CourseBounds
import CardLesson.Proofs.Hand
import CardLesson.Proofs.Budget
import CardLesson.Proofs.Nesting
import CardLesson.Proofs.Safety
import CardLesson.Proofs.Rejection
import CardLesson.Proofs.Legality
import CardLesson.Proofs.OncePerLesson
import CardLesson.Proofs.Diagnostics
import CardLesson.Proofs.Drinks
import CardLesson.Proofs.Frame
import CardLesson.Proofs.HandSize
import CardLesson.Proofs.BuffOrder
import CardLesson.Proofs.Schedules
import CardLesson.Proofs.Hosts
import CardLesson.Proofs.Provenance
import CardLesson.Proofs.Replies
import CardLesson.Proofs.LastTurn
import CardLesson.Proofs.Readable
import CardLesson.Proofs.Respaced
import CardLesson.Proofs.WellMade
import CardLesson.Proofs.Restoring
import CardLesson.Proofs.Records
import CardLesson.Proofs.Rounding
import CardLesson.Proofs.Shortest
import CardLesson.Proofs.NumberText
import CardLesson.Proofs.JsonText
import CardLesson.Proofs.Storable
import CardLesson.Proofs.Stored
import CardLesson.Proofs.CardFiles
import CardLesson.Proofs.Drawing
import CardLesson.Proofs.ShortDraws
import CardLesson.Proofs.Refusals
import CardLesson.Proofs.Immunity
import CardLesson.Proofs.Accuracy
import CardLesson.Proofs.HpShare
import CardLesson.Proofs.Costs
import CardLesson.Proofs.Scores
import CardLesson.Proofs.Consumption
import CardLesson.Proofs.Rosters
import CardLesson.Proofs.Guards
import CardLesson.Proofs.Greedy
import CardLesson.Proofs.Unambiguous
