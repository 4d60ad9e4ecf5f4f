/-!
The source of the function that picks a free priority for a listener rule.
-/

namespace Stackwright

def rulePriorityLines : List String := [
  "\"use strict\";",
  "",
  "const \x7b",
  "  ElasticLoadBalancingV2Client,",
  "  DescribeRulesCommand,",
  "\x7d = require(\"@aws-sdk/client-elastic-load-balancing-v2\");",
  "const https = require(\"https\");",
  "const url = require(\"url\");",
  "",
  "const elb = new ElasticLoadBalancingV2Client(\x7b\x7d);",
  "const MAX_PRIORITY = 50000;",
  "",
  "// The physical id is `<listener arn>|<priority>`, so an update can tell",
  "// whether the priority it handed out earlier is still valid.",
  "function physicalId(listenerArn, priority) \x7b",
  "  return `$\x7blistenerArn\x7d|$\x7bpriority\x7d`;",
  "\x7d",
  "",
  "function respond(event, context, status, reason, data, id) \x7b",
  "  const body = JSON.stringify(\x7b",
  "    Status: status,",
  "    Reason: reason,",
  "    PhysicalResourceId: id || event.PhysicalResourceId || context.logStreamName,",
  "    StackId: event.StackId,",
  "    RequestId: event.RequestId,",
  "    LogicalResourceId: event.LogicalResourceId,",
  "    Data: data || \x7b\x7d,",
  "  \x7d);",
  "  const target = url.parse(event.ResponseURL);",
  "  return new Promise((resolve, reject) => \x7b",
  "    const req = https.request(",
  "      \x7b",
  "        hostname: target.hostname,",
  "        port: 443,",
  "        path: target.path,",
  "        method: \"PUT\",",
  "        headers: \x7b \"content-type\": \"\", \"content-length\": Buffer.byteLength(body) \x7d,",
  "      \x7d,",
  "      resolve",
  "    );",
  "    req.on(\"error\", reject);",
  "    req.write(body);",
  "    req.end();",
  "  \x7d);",
  "\x7d",
  "",
  "async function usedPriorities(listenerArn) \x7b",
  "  const used = new Set();",
  "  let marker;",
  "  do \x7b",
  "    const out = await elb.send(new DescribeRulesCommand(\x7b ListenerArn: listenerArn, Marker: marker \x7d));",
  "    for (const rule of out.Rules) \x7b",
  "      if (rule.Priority !== \"default\") \x7b",
  "        used.add(parseInt(rule.Priority, 10));",
  "      \x7d",
  "    \x7d",
  "    marker = out.NextMarker;",
  "  \x7d while (marker);",
  "  return used;",
  "\x7d",
  "",
  "async function nextPriority(listenerArn) \x7b",
  "  const used = await usedPriorities(listenerArn);",
  "  for (let p = 1; p <= MAX_PRIORITY; p++) \x7b",
  "    if (!used.has(p)) \x7b",
  "      return p;",
  "    \x7d",
  "  \x7d",
  "  throw new Error(`no free rule priority on listener $\x7blistenerArn\x7d`);",
  "\x7d",
  "",
  "exports.handler = async function (event, context) \x7b",
  "  const listenerArn = event.ResourceProperties.ListenerArn;",
  "  try \x7b",
  "    let data = \x7b\x7d;",
  "    let id;",
  "    if (event.RequestType === \"Create\") \x7b",
  "      data.Priority = await nextPriority(listenerArn);",
  "      id = physicalId(listenerArn, data.Priority);",
  "    \x7d else if (event.RequestType === \"Update\") \x7b",
  "      const [oldArn, oldPriority] = (event.PhysicalResourceId || \"\").split(\"|\");",
  "      data.Priority =",
  "        oldArn === listenerArn && oldPriority ? parseInt(oldPriority, 10) : await nextPriority(listenerArn);",
  "      id = physicalId(listenerArn, data.Priority);",
  "    \x7d",
  "    await respond(event, context, \"SUCCESS\", \"\", data, id);",
  "  \x7d catch (err) \x7b",
  "    console.log(`rule priority failed: $\x7berr\x7d`);",
  "    await respond(event, context, \"FAILED\", String(err), \x7b\x7d);",
  "  \x7d",
  "\x7d;"]

end Stackwright
