import Baseline.CommandLine
import Baseline.Main
import Baseline.Proofs.Artifact.Results
import Baseline.Proofs.Comparison.Promotion
import Baseline.Proofs.WordDiff.History
import Baseline.Proofs.FileTree.Content
import Baseline.Proofs.Text.Decoding
import Baseline.Proofs.Text.Trim
import Baseline.Proofs.Comparison.Passing
import Baseline.Proofs.Comparison.Resolution
import Baseline.Proofs.Comparison.Images
import Baseline.Proofs.Comparison.Rerun
import Baseline.Proofs.CommandLine.Compare
import Baseline.Proofs.Log.Failing
import Baseline.Proofs.Log.Mirror
import Baseline.Proofs.Comparison.Order
import Baseline.Proofs.Artifact.Apart
import Baseline.Proofs.Diff.Reach
import Baseline.Proofs.Diff.Script
import Baseline.Proofs.Diff.Search
import Baseline.Proofs.Diff.Divide
import Baseline.Proofs.Diff.Compact
import Baseline.Proofs.Diff.Combine
import Baseline.Proofs.Diff.Group
import Baseline.Proofs.Diff.Line
import Baseline.Proofs.Diff.Hunk
import Baseline.Proofs.Diff.Header
import Baseline.Proofs.Diff.Patch
import Baseline.Proofs.FileTree.Aside
import Baseline.Proofs.Path.Below
import Baseline.Proofs.Comparison.Verdict
import Baseline.Proofs.Comparison.Platform
import Baseline.Proofs.Artifact.Inside
import Baseline.Proofs.WordDiff.Markup
import Baseline.Proofs.WordDiff.Segment
import Baseline.Proofs.Artifact.Stopped
import Baseline.Proofs.Path.Text
import Baseline.Proofs.WordDiff.Call
import Baseline.Proofs.Comparison.Documented
import Baseline.Proofs.Comparison.Report
import Baseline.Proofs.Comparison.Shape
import Baseline.Proofs.Sha256
import Baseline.Proofs.Text.Padding
import Baseline.Proofs.Comparison.Contents
import Baseline.Proofs.Diff.Tight
import Baseline.Proofs.Comparison.Again
import Baseline.Proofs.CommandLine.Lines
import Baseline.Proofs.Json.Spelling
import Baseline.Proofs.Artifact.Name
import Baseline.Proofs.Log.Shared
