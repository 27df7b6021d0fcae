import PerfCharts.ABChartArgs
import PerfCharts.ABChartTokens
import PerfCharts.ABChartParse
import PerfCharts.ABChartMetrics
import PerfCharts.ABChartMain
import PerfCharts.ABChartCompose
