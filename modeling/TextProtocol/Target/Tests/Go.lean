import TextProtocol.Target.Call.Go

/-!
# Go tests

The file with a property test and example tests for each message.
-/

namespace TextProtocol.Target.Go

def testsHead (p : Package) : List String :=
  "" :: indented (packageNames p) r#"
|// Code generated by wirecraft. DO NOT EDIT.
|
|package ⟨package⟩
|
|import (
|    "bytes"
|    "errors"
|    "math/rand"
|    "reflect"
|    "testing"
|    "testing/quick"
|)
|
|var (
|    _ = bytes.Equal
|    _ = errors.As
|)
|
|func randomString(r *rand.Rand, alphabet string, minSize, maxSize int) string {
|    runes := []rune(alphabet)
|    n := minSize + r.Intn(maxSize-minSize+1)
|    out := make([]rune, n)
|    for i := range out {
|        out[i] = runes[r.Intn(len(runes))]
|    }
|    return string(out)
|}
|
|func randomInt(r *rand.Rand, min, max int64) int64 {
|    return min + r.Int63n(max-min+1)
|}
|
|func randomBytes(r *rand.Rand, n int) []byte {
|    out := make([]byte, n)
|    r.Read(out)
|    return out
|}
|
|func pick(r *rand.Rand, values ...string) string {
|    return values[r.Intn(len(values))]
|}
|
|// optional returns the zero value, which stands for an absent field, half of the time.
|func optional[T any](r *rand.Rand, value T) T {
|    var zero T
|    if r.Intn(2) == 0 {
|        return zero
|    }
|    return value
|}
  "#

def testNames (m : Message) : Holes :=
  ("random", profile.privateName ["random", m.name]) :: m.names profile

def roundTripTest (m : Message) : List String :=
  indented (testNames m) r#"
|
|func ⟨random⟩(r *rand.Rand) ⟨type⟩ {
|    return ⟨type⟩{
  "# ++
  m.fields.map (fun f ↦ s!"\t\t{f.member profile}: {generator f},") ++ indented (testNames m) r#"
|    }
|}
|
|func Test⟨type⟩RoundTrip(t *testing.T) {
  "# ++
  m.info.skipReason.toList.map (fun reason ↦ s!"\tt.Skip({stringLiteral reason})") ++
  indented (testNames m) r#"
|    property := func(seed int64) bool {
|        m := ⟨random⟩(rand.New(rand.NewSource(seed)))
|        data, err := ⟨serialize⟩(m)
|        if err != nil {
|            t.Logf("serialize %+v: %v", m, err)
|            return false
|        }
|        parsed, n, err := ⟨parse⟩(data, 0)
|        if err != nil {
|            t.Logf("parse %q: %v", data, err)
|            return false
|        }
|        return n == len(data) && reflect.DeepEqual(parsed, m)
|    }
|    if err := quick.Check(property, &quick.Config{MaxCount: 100}); err != nil {
|        t.Fatal(err)
|    }
|}
  "#

def exampleTest (m : Message) : List String :=
  indented (m.names profile) r#"
|
|func Test⟨type⟩Example(t *testing.T) {
  "# ++
  (match m.sample? with
    | none => [s!"\tt.Skip({stringLiteral m.exampleSkip})"]
    | some sample =>
      let data := m.info.sampleBytes.getD []
      indented ([("example", exampleStruct m sample), ("bytes", bytesOf data),
          ("exampleLength", toString data.length)] ++ m.names profile) r#"
|    m := ⟨example⟩
|    want := ⟨bytes⟩
|    got, err := ⟨serialize⟩(m)
|    if err != nil {
|        t.Fatalf("serialize: %v", err)
|    }
|    if !bytes.Equal(got, want) {
|        t.Fatalf("serialize = %q, want %q", got, want)
|    }
|
|    parsed, n, err := ⟨parse⟩(want, 0)
|    if err != nil {
|        t.Fatalf("parse: %v", err)
|    }
|    if n != ⟨exampleLength⟩ {
|        t.Fatalf("consumed %d bytes, want ⟨exampleLength⟩", n)
|    }
|    if !reflect.DeepEqual(parsed, m) {
|        t.Fatalf("parse = %+v, want %+v", parsed, m)
|    }
  "#) ++ [r"}"]

def truncationTest (m : Message) : List String :=
  match m.info.truncatedBytes with
  | none => []
  | some data => indented (("bytes", bytesOf data) :: m.names profile) r#"
|
|func Test⟨type⟩RejectsTruncatedInput(t *testing.T) {
|    _, n, err := ⟨parse⟩(⟨bytes⟩, 0)
|    var pe *ParseError
|    if !errors.As(err, &pe) {
|        t.Fatalf("err = %v, want *ParseError", err)
|    }
|    if n != 0 {
|        t.Fatalf("consumed %d bytes on failure", n)
|    }
|}
  "#

def testsFile (p : Package) : String :=
  fileText (testsHead p ++ p.messages.flatMap fun m ↦
    roundTripTest m ++ exampleTest m ++ truncationTest m)

end TextProtocol.Target.Go
