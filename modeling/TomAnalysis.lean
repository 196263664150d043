import TomAnalysis.Python.Value
import TomAnalysis.Python.Output
import TomAnalysis.Python.Json
import TomAnalysis.Python.Builtins
import TomAnalysis.Statistics.Correctness
import TomAnalysis.Python.Numeric
import TomAnalysis.Events.Semantics
import TomAnalysis.Events.Correctness
import TomAnalysis.Stress.Semantics
import TomAnalysis.Stress.Correctness
import TomAnalysis.Stress.Status
import TomAnalysis.Results.Semantics
import TomAnalysis.Results.Correctness
import TomAnalysis.Results.Status
import TomAnalysis.Analysers.Correctness
import TomAnalysis.Launcher.Semantics
import TomAnalysis.Launcher.Correctness
import TomAnalysis.Launcher.Lifecycle
import TomAnalysis.Launcher.Cleanup
import TomAnalysis.Launcher.Window
import TomAnalysis.Launcher.Status
import TomAnalysis.Launcher.Interrupt
