/-!
The source of the function that registers a service with the load balancer of its environment.
-/

namespace Stackwright

def envControllerLines : List String := [
  "\"use strict\";",
  "",
  "const \x7b",
  "  CloudFormationClient,",
  "  DescribeStacksCommand,",
  "  UpdateStackCommand,",
  "\x7d = require(\"@aws-sdk/client-cloudformation\");",
  "const https = require(\"https\");",
  "const url = require(\"url\");",
  "",
  "const cfn = new CloudFormationClient(\x7b\x7d);",
  "",
  "function respond(event, context, status, reason, data) \x7b",
  "  const body = JSON.stringify(\x7b",
  "    Status: status,",
  "    Reason: reason,",
  "    PhysicalResourceId: event.PhysicalResourceId || context.logStreamName,",
  "    StackId: event.StackId,",
  "    RequestId: event.RequestId,",
  "    LogicalResourceId: event.LogicalResourceId,",
  "    Data: data || \x7b\x7d,",
  "  \x7d);",
  "  const target = url.parse(event.ResponseURL);",
  "  return new Promise((resolve, reject) => \x7b",
  "    const req = https.request(",
  "      \x7b",
  "        hostname: target.hostname,",
  "        port: 443,",
  "        path: target.path,",
  "        method: \"PUT\",",
  "        headers: \x7b \"content-type\": \"\", \"content-length\": Buffer.byteLength(body) \x7d,",
  "      \x7d,",
  "      resolve",
  "    );",
  "    req.on(\"error\", reject);",
  "    req.write(body);",
  "    req.end();",
  "  \x7d);",
  "\x7d",
  "",
  "function updateList(current, workload, add) \x7b",
  "  const names = new Set(current.split(\",\").filter((n) => n !== \"\"));",
  "  if (add) \x7b",
  "    names.add(workload);",
  "  \x7d else \x7b",
  "    names.delete(workload);",
  "  \x7d",
  "  return Array.from(names).sort().join(\",\");",
  "\x7d",
  "",
  "const sleep = (ms) => new Promise((resolve) => setTimeout(resolve, ms));",
  "",
  "async function waitForOutputs(stackName) \x7b",
  "  for (;;) \x7b",
  "    const out = await cfn.send(new DescribeStacksCommand(\x7b StackName: stackName \x7d));",
  "    const stack = out.Stacks[0];",
  "    if (stack.StackStatus.endsWith(\"_IN_PROGRESS\")) \x7b",
  "      await sleep(3000);",
  "      continue;",
  "    \x7d",
  "    if (stack.StackStatus.endsWith(\"_FAILED\") || stack.StackStatus.includes(\"ROLLBACK\")) \x7b",
  "      throw new Error(`environment stack $\x7bstackName\x7d is in state $\x7bstack.StackStatus\x7d`);",
  "    \x7d",
  "    const outputs = \x7b\x7d;",
  "    for (const o of stack.Outputs || []) \x7b",
  "      outputs[o.OutputKey] = o.OutputValue;",
  "    \x7d",
  "    return outputs;",
  "  \x7d",
  "\x7d",
  "",
  "async function setWorkload(stackName, workload, keys, add) \x7b",
  "  const out = await cfn.send(new DescribeStacksCommand(\x7b StackName: stackName \x7d));",
  "  const stack = out.Stacks[0];",
  "  let changed = false;",
  "  const params = stack.Parameters.map((p) => \x7b",
  "    if (!keys.includes(p.ParameterKey)) \x7b",
  "      return \x7b ParameterKey: p.ParameterKey, UsePreviousValue: true \x7d;",
  "    \x7d",
  "    const next = updateList(p.ParameterValue, workload, add);",
  "    changed = changed || next !== p.ParameterValue;",
  "    return \x7b ParameterKey: p.ParameterKey, ParameterValue: next \x7d;",
  "  \x7d);",
  "  if (!changed) \x7b",
  "    return;",
  "  \x7d",
  "  await cfn.send(",
  "    new UpdateStackCommand(\x7b",
  "      StackName: stackName,",
  "      Parameters: params,",
  "      UsePreviousTemplate: true,",
  "      Capabilities: stack.Capabilities,",
  "      RoleARN: stack.RoleARN,",
  "    \x7d)",
  "  );",
  "\x7d",
  "",
  "exports.handler = async function (event, context) \x7b",
  "  const props = event.ResourceProperties;",
  "  const keys = props.Parameters || [];",
  "  try \x7b",
  "    let data = \x7b\x7d;",
  "    switch (event.RequestType) \x7b",
  "      case \"Create\":",
  "      case \"Update\":",
  "        await waitForOutputs(props.EnvStack);",
  "        await setWorkload(props.EnvStack, props.Workload, keys, true);",
  "        data = await waitForOutputs(props.EnvStack);",
  "        break;",
  "      case \"Delete\":",
  "        await waitForOutputs(props.EnvStack);",
  "        await setWorkload(props.EnvStack, props.Workload, keys, false);",
  "        break;",
  "      default:",
  "        throw new Error(`unsupported request type $\x7bevent.RequestType\x7d`);",
  "    \x7d",
  "    await respond(event, context, \"SUCCESS\", \"\", data);",
  "  \x7d catch (err) \x7b",
  "    console.log(`env controller failed: $\x7berr\x7d`);",
  "    await respond(event, context, \"FAILED\", String(err), \x7b\x7d);",
  "  \x7d",
  "\x7d;"]

end Stackwright
